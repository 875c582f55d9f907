/-! Control sequences of terminals, which have no place in a text that goes elsewhere: an escape and
an opening bracket, parameters, intermediates and a final character. -/

namespace ScenarioScript.Text

def isParameter (c : Char) : Bool :=
  0x30 ≤ c.toNat && c.toNat ≤ 0x3F

def isIntermediate (c : Char) : Bool :=
  0x20 ≤ c.toNat && c.toNat ≤ 0x2F

def isFinal (c : Char) : Bool :=
  0x40 ≤ c.toNat && c.toNat ≤ 0x7E

def controlLength? (cs : List Char) : Option Nat :=
  match (cs.dropWhile isParameter).dropWhile isIntermediate with
  | c :: rest => if isFinal c then some (cs.length - rest.length) else none
  | [] => none

def withoutControls : List Char → List Char
  | [] => []
  | c :: cs =>
    match (c, cs) with
    | ('\x1b', '[' :: rest) =>
      match controlLength? rest with
      | some n => withoutControls (cs.drop (n + 1))
      | none => c :: withoutControls cs
    | _ => c :: withoutControls cs
termination_by cs => cs.length
decreasing_by all_goals (simp; try omega)

end ScenarioScript.Text
