import ScenarioScript.Yaml.Place

namespace ScenarioScript.Yaml.Unquoted

def isFlowMark (c : Char) : Bool :=
  c = ',' || c = '[' || c = ']' || c = '\x7b' || c = '\x7d'

def flowMarkAhead : List Char → Bool
  | c :: _ => isFlowMark c
  | [] => false

def word (flow : Bool) : List Char → List Char
  | [] => []
  | c :: cs =>
    if Scalar.isBlank c then []
    else if c = ':' && (Scalar.blankAhead cs || (flow && flowMarkAhead cs)) then []
    else if flow && (c = '?' || isFlowMark c) then []
    else c :: word flow cs

/-- What stands between two words: its length, the text that it gives, which is none where the
scalar ends, and whether it has a line break. -/
structure Gap where
  length : Nat
  text : List Char
  broken : Bool

def breaksFrom (first : Char) (further : List Char) (length : Nat) (cs : List Char) : Gap :=
  match cs with
  | [] => ⟨length, foldBreaks first further, true⟩
  | c :: cs =>
    if c = ' ' then breaksFrom first further (length + 1) cs
    else if Scalar.isBreak c then
      if atSeparator cs then ⟨length + 1, [], true⟩
      else breaksFrom first (further ++ [breakChar c]) (length + 1) cs
    else ⟨length, foldBreaks first further, true⟩

def gap (cs : List Char) : Gap :=
  let blanks := cs.takeWhile (· = ' ')
  match cs.dropWhile (· = ' ') with
  | c :: rest =>
    if Scalar.isBreak c then
      if atSeparator rest then ⟨blanks.length + 1, [], true⟩
      else breaksFrom (breakChar c) [] (blanks.length + 1) rest
    else ⟨blanks.length, blanks, false⟩
  | [] => ⟨blanks.length, blanks, false⟩

structure Reading where
  text : List Char
  length : Nat
  broken : Bool

theorem length_word_le (flow : Bool) (cs : List Char) : (word flow cs).length ≤ cs.length := by
  fun_induction word flow cs <;> simp_all

def further (flow : Bool) (indent : Nat) (p : Place) (cs : List Char) : Reading :=
  let g := gap cs
  let p' := p.after (cs.take g.length)
  let stops := g.text.isEmpty || (cs.drop g.length).head? = some '#' ||
    (!flow && p'.column < indent)
  match h : word flow (cs.drop (gap cs).length) with
  | [] => ⟨[], g.length, g.broken⟩
  | c :: w =>
    if stops then ⟨[], g.length, g.broken⟩
    else
      let r := further flow indent (p'.after (c :: w))
        ((cs.drop (gap cs).length).drop (w.length + 1))
      ⟨g.text ++ c :: w ++ r.text, g.length + w.length + 1 + r.length, r.broken⟩
termination_by cs.length
decreasing_by
  have := length_word_le flow (cs.drop (gap cs).length)
  simp only [h, List.length_cons, List.length_drop] at this ⊢
  omega

def read (flow : Bool) (indent : Nat) (p : Place) (cs : List Char) : Reading :=
  let w := word flow cs
  let r := further flow indent (p.after w) (cs.drop w.length)
  ⟨w ++ r.text, w.length + r.length, r.broken⟩

end ScenarioScript.Yaml.Unquoted
