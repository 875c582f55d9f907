import ScenarioScript.Script
import ScenarioScript.Walk.Lexeme
import ScenarioScript.Walk.Step

/-! Scripts, read by one walk over their tokens. A walk that breaks down gives a fault and no
scenario. -/

namespace ScenarioScript

namespace Walk

def value? (kind : TokenKind) : Walk (Option Token) := do
  match ← peek? with
  | none => return none
  | some t => if t.kind ≠ kind ∨ t.is .step then return none else some <$> next

def priority (word : Token) : Walk Priority := do
  match word.keyword.bind Script.priority? with
  | some p => return p
  | none =>
    caution (.unknownPriority word.text) word
    return .medium

structure ScriptFound where
  name : String
  description : String
  startUrl : String
  tags : SortedSet String
  priority : Priority
  steps : List Step
  index : Nat

namespace ScriptFound

def empty : ScriptFound :=
  ⟨"", "", "", SortedSet.empty, .medium, [], 0⟩

def scenario (s : ScriptFound) : Scenario :=
  ⟨Script.scenarioId, s.name, s.description, s.startUrl, s.steps, s.tags, s.priority⟩

end ScriptFound

def itemTurn (settings : Settings) (s : ScriptFound) (t : Token) : Walk ScriptFound := do
  match t.keyword with
  | some .scenario =>
    match ← value? .string with
    | none => return s
    | some v =>
      if s.name.isEmpty then return { s with name := v.text }
      else
        caution (.furtherScenario v.text) t
        return s
  | some .description =>
    match ← value? .string with
    | none => return s
    | some v => return { s with description := v.text }
  | some .url =>
    match ← value? .string with
    | none => return s
    | some v => return { s with startUrl := v.text }
  | some .tags =>
    match ← value? .array with
    | none => return s
    | some v => return { s with tags := Tags.read v.text }
  | some .priority =>
    match ← value? .keyword with
    | none => return s
    | some v => return { s with priority := ← priority v }
  | some .step =>
    match ← step settings t s.index with
    | none => return { s with index := s.index + 1 }
    | some step => return { s with index := s.index + 1, steps := s.steps ++ [step] }
  | _ => return s

def items (settings : Settings) : Walk ScriptFound :=
  loop (fun _ c => c.pending.length) (fun s => do
    if ← hasNext then return .again (← itemTurn settings s (← next))
    else return .done s) .empty

def script (settings : Settings) : Script.Source → Walk (Option Scenario)
  | .other value => throw (.notText value)
  | .text s => do
    let ts ← tokens (Text.lines s)
    modify fun c => { c with pending := ts }
    let found ← items settings
    if found.name.isEmpty then
      modify fun c => { c with faults := c.faults ++ [⟨1, 0, .nameMissing⟩] }
      return none
    else return some found.scenario

def reading (w : Walk (Option Scenario)) : Reading :=
  match w.on (Cursor.ofTokens []) with
  | (.ok scenario, c) => ⟨scenario, c.faults, c.cautions⟩
  | (.error b, c) => ⟨none, c.faults ++ [⟨c.line, c.column, b.cause⟩], c.cautions⟩

end Walk

namespace Script

def readSource (settings : Settings) (source : Source) : Reading :=
  (Walk.script settings source).reading

def read (settings : Settings) (s : String) : Reading :=
  readSource settings (.text s)

end Script

end ScenarioScript
