import ScenarioScript.Document
import ScenarioScript.Yaml.Enclosed

/-! Documents from JSON text. Any text is read but one with what no document holds: a number written
with a fraction or an exponent, or half of a surrogate pair. Of fields of one name the last counts,
at the place of the first. -/

namespace ScenarioScript.Document

def setField (k : String) (d : Document) : List (String × Document) → List (String × Document)
  | [] => [(k, d)]
  | (k', d') :: fs => if k' = k then (k', d) :: fs else (k', d') :: setField k d fs

def distinct (fs : List (String × Document)) : List (String × Document) :=
  fs.foldl (fun r f => setField f.1 f.2 r) []

namespace OfJson

open Yaml.Enclosed (hexValue?)

def isSpace (c : Char) : Bool :=
  c = ' ' || c = '\t' || c = '\n' || c = '\r'

def skipSpaces (cs : List Char) : List Char :=
  cs.dropWhile isSpace

def unit? : List Char → Option (Nat × List Char)
  | a :: b :: c :: d :: cs => do
    return (0x1000 * (← hexValue? a) + 0x100 * (← hexValue? b) + 0x10 * (← hexValue? c) +
      (← hexValue? d), cs)
  | _ => none

def isHigh (unit : Nat) : Bool :=
  0xD800 ≤ unit && unit ≤ 0xDBFF

def isLow (unit : Nat) : Bool :=
  0xDC00 ≤ unit && unit ≤ 0xDFFF

def low? : List Char → Option (Nat × List Char)
  | '\\' :: 'u' :: cs => (unit? cs).filter (isLow ·.1)
  | _ => none

def longEscape? (cs : List Char) : Option (Char × List Char) := do
  let (unit, rest) ← unit? cs
  if isHigh unit then
    let (low, rest) ← low? rest
    return (Char.ofNat (0x10000 + 0x400 * (unit - 0xD800) + (low - 0xDC00)), rest)
  else if isLow unit then none
  else return (Char.ofNat unit, rest)

def shortEscapes : List (Char × Char) := [
  ('"', '"'), ('\\', '\\'), ('/', '/'), ('b', '\x08'), ('f', '\x0c'), ('n', '\n'), ('r', '\r'),
  ('t', '\t')]

def escape? : List Char → Option (Char × List Char)
  | [] => none
  | 'u' :: cs => longEscape? cs
  | c :: cs => (shortEscapes.lookup c).map (·, cs)

theorem length_unit?_lt {cs rest : List Char} {n : Nat} (h : unit? cs = some (n, rest)) :
    rest.length < cs.length := by
  unfold unit? at h
  split at h
  · simp only [Option.pure_def, Option.bind_eq_bind, Option.bind_eq_some_iff, Option.some.injEq,
      Prod.mk.injEq] at h
    obtain ⟨_, -, _, -, _, -, _, -, -, rfl⟩ := h
    simp
    omega
  · simp at h

theorem length_low?_lt {cs rest : List Char} {n : Nat} (h : low? cs = some (n, rest)) :
    rest.length < cs.length := by
  unfold low? at h
  split at h
  · have := length_unit?_lt (Option.eq_some_of_filter_eq_some h)
    simp
    omega
  · simp at h

theorem length_longEscape?_lt {cs rest : List Char} {c : Char}
    (h : longEscape? cs = some (c, rest)) : rest.length < cs.length := by
  simp only [longEscape?, Option.pure_def, Option.bind_eq_bind, Option.bind_eq_some_iff] at h
  obtain ⟨⟨unit, rest'⟩, hunit, h⟩ := h
  have hlt := length_unit?_lt hunit
  split at h
  · simp only [Option.bind_eq_some_iff, Option.some.injEq, Prod.mk.injEq] at h
    obtain ⟨⟨low, _⟩, hlow, -, rfl⟩ := h
    exact Nat.lt_trans (length_low?_lt hlow) hlt
  · split at h
    · simp at h
    · obtain ⟨-, rfl⟩ := by simpa using h
      exact hlt

theorem length_escape?_lt {cs rest : List Char} {c : Char} (h : escape? cs = some (c, rest)) :
    rest.length < cs.length := by
  unfold escape? at h
  split at h
  · simp at h
  · exact Nat.lt_succ_of_lt (length_longEscape?_lt h)
  · obtain ⟨_, -, h⟩ := Option.map_eq_some_iff.1 h
    obtain ⟨-, rfl⟩ := by simpa using h
    simp

def string? (cs : List Char) : Option (List Char × List Char) :=
  match cs with
  | [] => none
  | '"' :: rest => some ([], rest)
  | '\\' :: cs =>
    match _h : escape? cs with
    | none => none
    | some (c, rest) => (string? rest).map fun (tail, rest) => (c :: tail, rest)
  | c :: cs =>
    if c.toNat < 0x20 then none else (string? cs).map fun (tail, rest) => (c :: tail, rest)
termination_by cs.length
decreasing_by
  · have := length_escape?_lt _h
    simp
    omega
  · simp

def natural? (cs : List Char) : Option (Nat × List Char) :=
  let digits := cs.takeWhile Char.isDigit
  let rest := cs.dropWhile Char.isDigit
  if digits.isEmpty || (digits.head? = some '0' && 1 < digits.length) ||
      rest.head?.any ['.', 'e', 'E'].contains then none
  else some (Nat.ofDigitChars 10 digits 0, rest)

def integer? : List Char → Option (Int × List Char)
  | '-' :: cs => (natural? cs).map fun (n, rest) => (-(n : Int), rest)
  | cs => (natural? cs).map fun (n, rest) => ((n : Int), rest)

def key? : List Char → Option (String × List Char)
  | '"' :: cs => do
    let (k, rest) ← string? cs
    match skipSpaces rest with
    | ':' :: rest => some (String.ofList k, skipSpaces rest)
    | _ => none
  | _ => none

mutual

/-- A value and what stands behind it; the first argument bounds the depth of the reading. -/
def value? (n : Nat) (cs : List Char) : Option (Document × List Char) :=
  match n with
  | 0 => none
  | n + 1 => match cs with
    | 'n' :: 'u' :: 'l' :: 'l' :: rest => some (.null, rest)
    | 't' :: 'r' :: 'u' :: 'e' :: rest => some (.bool true, rest)
    | 'f' :: 'a' :: 'l' :: 's' :: 'e' :: rest => some (.bool false, rest)
    | '"' :: cs => (string? cs).map fun (s, rest) => (.text (String.ofList s), rest)
    | '[' :: cs => match skipSpaces cs with
      | ']' :: rest => some (.list [], rest)
      | cs => (items? n cs).map fun (ds, rest) => (.list ds, rest)
    | '\x7b' :: cs => match skipSpaces cs with
      | '\x7d' :: rest => some (.record [], rest)
      | cs => (fields? n cs).map fun (fs, rest) => (.record (distinct fs), rest)
    | cs => (integer? cs).map fun (m, rest) => (.int m, rest)

def items? (n : Nat) (cs : List Char) : Option (List Document × List Char) :=
  match n with
  | 0 => none
  | n + 1 => do
    let (d, rest) ← value? n cs
    match skipSpaces rest with
    | ']' :: rest => some ([d], rest)
    | ',' :: rest => (items? n (skipSpaces rest)).map fun (ds, rest) => (d :: ds, rest)
    | _ => none

def fields? (n : Nat) (cs : List Char) : Option (List (String × Document) × List Char) :=
  match n with
  | 0 => none
  | n + 1 => do
    let (k, rest) ← key? cs
    let (d, rest) ← value? n rest
    match skipSpaces rest with
    | '\x7d' :: rest => some ([(k, d)], rest)
    | ',' :: rest => (fields? n (skipSpaces rest)).map fun (fs, rest) => ((k, d) :: fs, rest)
    | _ => none

end

end OfJson

def ofJson? (s : String) : Option Document := do
  let (d, rest) ← OfJson.value? (s.length + 1) (OfJson.skipSpaces s.toList)
  if (OfJson.skipSpaces rest).isEmpty then some d else none

end ScenarioScript.Document
