import ScenarioScript.Token

/-! Spans: an action's head with the tokens that belong to it. A span ends before the next action
keyword and before the step's own settings; only a wait keeps a timeout of its own line. -/

namespace ScenarioScript.Span

def keeps (head t : Token) : Bool :=
  head.is .wait && t.is .timeout && t.line = head.line

def endsAt (head t : Token) : Bool :=
  match t.keyword with
  | some k => k.isAction || (k.isStepSetting && !keeps head t)
  | none => false

def cut (head : Token) (ts : List Token) : List Token × List Token :=
  (ts.takeWhile (!endsAt head ·), ts.dropWhile (!endsAt head ·))

theorem length_cut_le (head : Token) (ts : List Token) : (cut head ts).2.length ≤ ts.length :=
  (List.dropWhile_sublist _).length_le

def from? (ts : List Token) (start : Nat) : Option (List Token) :=
  match ts.drop start with
  | [] => none
  | t :: rest => some (t :: (cut t rest).1)

def all : List Token → List (List Token)
  | [] => []
  | t :: ts => (t :: (cut t ts).1) :: all (cut t ts).2
termination_by ts => ts.length
decreasing_by
  have := length_cut_le t ts
  simp
  omega

end ScenarioScript.Span
