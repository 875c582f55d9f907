import ScenarioScript.Entry
import ScenarioScript.Lexeme
import ScenarioScript.Outline

/-! Scripts: what a text says, as a scenario with the faults and cautions found on the way. A
scenario stands beside the faults of the steps that it lost; without a name there is none. -/

namespace ScenarioScript

structure Reading where
  scenario : Option Scenario
  faults : List Fault
  cautions : List Caution
  deriving DecidableEq

def Reading.success (r : Reading) : Bool :=
  r.scenario.isSome && r.faults.isEmpty

namespace Script

structure Draft where
  name : String
  description : String
  startUrl : String
  tags : SortedSet String
  priority : Priority
  steps : List Step
  blocks : Nat
  faults : List Fault
  cautions : List Caution
  deriving DecidableEq

def priority? : Keyword → Option Priority
  | .critical => some .critical
  | .high => some .high
  | .medium => some .medium
  | .low => some .low
  | _ => none

/-- Blocks are numbered in order, also those that give no step. -/
def stepId (n : Nat) : String :=
  "step_" ++ Decimal.text n

namespace Draft

def empty : Draft :=
  ⟨"", "", "", SortedSet.empty, .medium, [], 0, [], []⟩

def caution (d : Draft) (c : Caution) : Draft :=
  { d with cautions := d.cautions ++ [c] }

def addBlock (settings : Settings) (d : Draft) (b : Block) : Draft :=
  let next := { d with blocks := d.blocks + 1, cautions := d.cautions ++ b.cautions settings }
  match b.step? settings (stepId d.blocks) with
  | some s => { next with steps := d.steps ++ [s] }
  | none => { next with faults := d.faults ++ [b.fault] }

def add (settings : Settings) (d : Draft) : Item → Draft
  | .name head text =>
    if d.name.isEmpty then { d with name := text }
    else d.caution ⟨head.line, .furtherScenario text⟩
  | .description text => { d with description := text }
  | .url text => { d with startUrl := text }
  | .tags tags => { d with tags := tags }
  | .priority word => match word.keyword.bind priority? with
    | some p => { d with priority := p }
    | none => { d with priority := .medium }.caution ⟨word.line, .unknownPriority word.text⟩
  | .step b => d.addBlock settings b

def addAll (settings : Settings) (d : Draft) (items : List Item) : Draft :=
  items.foldl (add settings) d

end Draft

def scenarioId : String := "scenario_0_00000000"

def Draft.reading (d : Draft) : Reading :=
  if d.name.isEmpty then
    ⟨none, d.faults ++ [⟨1, 0, .nameMissing⟩], d.cautions⟩
  else
    ⟨some ⟨scenarioId, d.name, d.description, d.startUrl, d.steps, d.tags, d.priority⟩,
      d.faults, d.cautions⟩

def ofTokens (settings : Settings) (ts : List Token) : Reading :=
  (Draft.empty.addAll settings (outline ts)).reading

inductive Source
  | text (s : String)
  | other (value : NonText)
  deriving DecidableEq, Repr

end Script

end ScenarioScript
