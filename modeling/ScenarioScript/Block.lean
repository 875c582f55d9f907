import ScenarioScript.Token

/-! Blocks: the braces behind a step keyword, with the tokens between them. Braces inside a block
only have to balance. -/

namespace ScenarioScript

structure Block where
  head : Token
  description : String
  body : List Token
  closed : Bool
  deriving DecidableEq, Repr

namespace Block

structure Body where
  tokens : List Token
  closed : Bool
  rest : List Token

def inner (depth : Nat) : List Token → Body
  | [] => ⟨[], false, []⟩
  | t :: ts => match t.kind, depth with
    | .braceOpen, _ => inner (depth + 1) ts
    | .braceClose, 0 => ⟨[], true, ts⟩
    | .braceClose, d + 1 => inner d ts
    | _, _ =>
      let b := inner depth ts
      { b with tokens := t :: b.tokens }

/-- A body whose braces are yet to come; a step keyword in front of them belongs to the next
step. -/
def outer : List Token → Body
  | [] => ⟨[], false, []⟩
  | t :: ts =>
    if t.is .step then ⟨[], false, t :: ts⟩
    else match t.kind with
      | .braceOpen => inner 0 ts
      | .braceClose => ⟨[], true, ts⟩
      | _ => outer ts

def read (head : Token) (ts : List Token) : Block × List Token :=
  match ts with
  | [] => (⟨head, "", [], false⟩, [])
  | t :: rest =>
    if t.kind = .string then
      let b := outer rest
      (⟨head, t.text, b.tokens, b.closed⟩, b.rest)
    else
      let b := outer ts
      (⟨head, "", b.tokens, b.closed⟩, b.rest)

theorem length_inner_le (depth : Nat) (ts : List Token) :
    (inner depth ts).rest.length ≤ ts.length := by
  fun_induction inner depth ts <;> simp_all <;> omega

theorem length_outer_le (ts : List Token) : (outer ts).rest.length ≤ ts.length := by
  fun_induction outer ts with
  | case1 => simp
  | case2 t ts h => simp
  | case3 t ts h hk => exact Nat.le_succ_of_le (length_inner_le 0 ts)
  | case4 t ts h hk => simp
  | case5 t ts h _ _ ih => exact Nat.le_succ_of_le ih

theorem length_read_le (head : Token) (ts : List Token) : (read head ts).2.length ≤ ts.length := by
  unfold read
  split
  · simp
  · next t rest =>
    split
    · exact Nat.le_succ_of_le (length_outer_le rest)
    · exact length_outer_le (t :: rest)

end Block

end ScenarioScript
