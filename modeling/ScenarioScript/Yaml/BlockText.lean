import ScenarioScript.Yaml.Place

/-! Block scalars as they are read: indented lines below a header that says how line breaks inside
them and at their end are kept. -/

namespace ScenarioScript.Yaml.BlockText

inductive Chomp
  | clip | keep | strip
  deriving DecidableEq, Repr

structure Header where
  chomp : Chomp
  indentation : Option Nat
  deriving DecidableEq, Repr

def chomp? : Char → Option Chomp
  | '+' => some .keep
  | '-' => some .strip
  | _ => none

def indentation? (c : Char) : Option Nat :=
  if c.isDigit && c ≠ '0' then some (c.toNat - 48) else none

def header (cs : List Char) : Header × List Char :=
  match cs with
  | [] => (⟨.clip, none⟩, [])
  | a :: rest =>
    match chomp? a, indentation? a with
    | some h, _ => match rest with
      | b :: rest' => match indentation? b with
        | some n => (⟨h, some n⟩, rest')
        | none => (⟨h, none⟩, rest)
      | [] => (⟨h, none⟩, [])
    | none, some n => match rest with
      | b :: rest' => match chomp? b with
        | some h => (⟨h, some n⟩, rest')
        | none => (⟨.clip, some n⟩, rest)
      | [] => (⟨.clip, some n⟩, [])
    | none, none => (⟨.clip, none⟩, cs)

def endsHeader : List Char → Bool
  | [] => true
  | c :: _ => c = ' ' || Scalar.isBreak c

def restOfLine (cs : List Char) : Option (List Char) :=
  let cs := cs.dropWhile (· = ' ')
  let cs := if cs.head? = some '#' then cs.dropWhile (!Scalar.isBreak ·) else cs
  match cs with
  | [] => some []
  | c :: cs => if Scalar.isBreak c then some cs else none

structure Opening where
  breaks : List Char
  column : Nat
  rest : List Char

def openingAt (indent column : Nat) : List Char → Opening
  | [] => ⟨[], column, []⟩
  | c :: cs =>
    if c = ' ' && column < indent then openingAt indent (column + 1) cs
    else if Scalar.isBreak c then
      let o := openingAt indent 0 cs
      { o with breaks := breakChar c :: o.breaks }
    else ⟨[], column, c :: cs⟩

def deepest (column : Nat) : List Char → Nat
  | [] => column
  | c :: cs =>
    if c = ' ' then deepest (column + 1) cs
    else if Scalar.isBreak c then max column (deepest 0 cs)
    else column

def startsBlank : List Char → Bool
  | c :: _ => c = ' ' || c = '\t'
  | [] => false

theorem length_openingAt_le (indent column : Nat) (cs : List Char) :
    (openingAt indent column cs).rest.length ≤ cs.length := by
  fun_induction openingAt indent column cs with
  | case1 => exact Nat.le_refl _
  | case2 column c cs h ih => exact Nat.le_succ_of_le ih
  | case3 column c cs h hb o ih => exact Nat.le_succ_of_le ih
  | case4 => exact Nat.le_refl _

def ending (chomp : Chomp) (last breaks : List Char) : List Char :=
  match chomp with
  | .clip => last
  | .keep => last ++ breaks
  | .strip => []

def lineOf (cs : List Char) : List Char :=
  cs.takeWhile (!Scalar.isBreak ·)

def afterLine (cs : List Char) : List Char :=
  cs.dropWhile (!Scalar.isBreak ·)

/-- What the break between two lines gives: in a folded scalar a single break between lines that
start with no blank is a space. -/
def between (folded : Bool) (line : List Char) (b : Char) (next : Opening) : List Char :=
  if folded && breakChar b = '\n' && !startsBlank line && !startsBlank next.rest then
    if next.breaks.isEmpty then [' '] else []
  else [breakChar b]

def lines (folded : Bool) (chomp : Chomp) (indent : Nat) (cs : List Char) : List Char × List Char :=
  match _hb : afterLine cs with
  | [] => (lineOf cs, [])
  | b :: rest =>
    if (openingAt indent 0 rest).column = indent && !(openingAt indent 0 rest).rest.isEmpty then
      let r := lines folded chomp indent (openingAt indent 0 rest).rest
      (lineOf cs ++ between folded cs b (openingAt indent 0 rest) ++
        (openingAt indent 0 rest).breaks ++ r.1, r.2)
    else
      (lineOf cs ++ ending chomp [breakChar b] (openingAt indent 0 rest).breaks,
        (openingAt indent 0 rest).rest)
termination_by cs.length
decreasing_by
  have h1 := length_openingAt_le indent 0 rest
  have h2 : (afterLine cs).length ≤ cs.length := (List.dropWhile_sublist _).length_le
  simp only [_hb, List.length_cons] at h2
  omega

def read (folded : Bool) (least : Nat) (cs : List Char) : Option (List Char × List Char) := do
  let (h, cs) := header cs
  let cs ← if endsHeader cs then restOfLine cs else none
  let indent := match h.indentation with
    | some n => least + n - 1
    | none => max least (deepest 0 cs)
  let o := openingAt indent 0 cs
  if o.column = indent && !o.rest.isEmpty then
    let (text, rest) := lines folded h.chomp indent o.rest
    return (o.breaks ++ text, rest)
  else return (ending h.chomp [] o.breaks, o.rest)

end ScenarioScript.Yaml.BlockText
