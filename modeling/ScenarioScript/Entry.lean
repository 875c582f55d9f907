import ScenarioScript.Block
import ScenarioScript.Arguments
import ScenarioScript.Scenario
import ScenarioScript.Span

/-! Entries of a step's body: its settings and the runs of tokens that stand for actions. A step
takes the first run that is an action and the last of each setting. -/

namespace ScenarioScript

inductive Entry
  | expect (text : String)
  | timeout (ms : Option Int)
  | retry (line : Int) (count : Int)
  | continueOnFailure
  | run (head : Token) (args : List Token)
  deriving DecidableEq, Repr

namespace Entry

def ofArgument (kind : TokenKind) (entry : Token → Entry) : List Token → List Entry
  | t :: _ => if t.kind = kind then [entry t] else []
  | [] => []

def retryOf (t : Token) : Entry :=
  .retry t.line ((Decimal.read? t.text).getD 0)

def readAt (t : Token) (ts : List Token) : List Entry × List Token :=
  if t.kind ≠ .keyword then ([], ts)
  else match t.keyword with
    | some .expect => (ofArgument .string (fun a => .expect a.text) ts, ts)
    | some .timeout => (ofArgument .number (fun a => .timeout (Decimal.read? a.text)) ts, ts)
    | some .retry => (ofArgument .number retryOf ts, ts)
    | some .continueOnFailure => ([.continueOnFailure], ts)
    | _ => ([.run t (Span.cut t ts).1], (Span.cut t ts).2)

theorem length_readAt_le (t : Token) (ts : List Token) : (readAt t ts).2.length ≤ ts.length := by
  unfold readAt
  split
  · exact Nat.le_refl _
  · split <;> first | exact Nat.le_refl _ | exact Span.length_cut_le t ts

def all : List Token → List Entry
  | [] => []
  | t :: ts => (readAt t ts).1 ++ all (readAt t ts).2
termination_by ts => ts.length
decreasing_by
  have := length_readAt_le t ts
  simp
  omega

theorem all_nil : all [] = [] := by
  rw [all.eq_def]

theorem all_cons (t : Token) (ts : List Token) :
    all (t :: ts) = (readAt t ts).1 ++ all (readAt t ts).2 := by
  rw [all.eq_def]

end Entry

structure StepDraft where
  action : Option Action
  expected : Option String
  timeout : Option Int
  retries : Int
  continueOnFailure : Bool
  deriving DecidableEq, Repr

namespace StepDraft

def empty : StepDraft :=
  ⟨none, none, none, 0, false⟩

def add (settings : Settings) (description : String) (d : StepDraft) :
    Entry → StepDraft × List Caution
  | .expect text => ({ d with expected := some text }, [])
  | .timeout ms => ({ d with timeout := ms }, [])
  | .retry line count =>
    if count < 0 then ({ d with retries := 0 }, [⟨line, .negativeRetries description⟩])
    else ({ d with retries := count }, [])
  | .continueOnFailure => ({ d with continueOnFailure := true }, [])
  | .run head args =>
    if d.action.isSome then (d, [⟨head.line, .furtherAction description head.text⟩])
    else match Action.ofSpan settings head args with
      | .ok a => ({ d with action := some a }, [])
      | .error c => (d, [c])

def addAll (settings : Settings) (description : String) (d : StepDraft) :
    List Entry → StepDraft × List Caution
  | [] => (d, [])
  | e :: es =>
    let (d, cs) := add settings description d e
    let (d, cs') := addAll settings description d es
    (d, cs ++ cs')

def step? (id description : String) (d : StepDraft) : Option Step :=
  d.action.map fun a =>
    ⟨id, description, a, d.expected, d.timeout, d.retries, d.continueOnFailure⟩

end StepDraft

namespace Block

def unclosed (b : Block) : List Caution :=
  if b.closed then [] else [⟨b.head.line, .unclosedStep b.description⟩]

def draft (settings : Settings) (b : Block) : StepDraft × List Caution :=
  StepDraft.empty.addAll settings b.description (Entry.all b.body)

def cautions (settings : Settings) (b : Block) : List Caution :=
  b.unclosed ++ (b.draft settings).2

def step? (settings : Settings) (id : String) (b : Block) : Option Step :=
  (b.draft settings).1.step? id b.description

def fault (b : Block) : Fault :=
  ⟨b.head.line, b.head.column, .stepWithoutAction b.description⟩

end Block

end ScenarioScript
