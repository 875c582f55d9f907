import ScenarioScript.Yaml.Place

/-! Quoted scalars as they are read. Blanks around a line break are dropped and the break is folded;
in double quotes a backslash begins an escape, and before a break it keeps the lines together. -/

namespace ScenarioScript.Yaml.Enclosed

def isGap (c : Char) : Bool :=
  c = ' ' || c = '\t'

def shortEscape? (c : Char) : Option Char :=
  match c with
  | ' ' => some ' '
  | '\t' => some '\t'
  | '/' => some '/'
  | c => (Scalar.shortEscapes.find? (·.2 = c)).map (·.1)

def longEscape? : Char → Option Nat
  | 'x' => some 2
  | 'u' => some 4
  | 'U' => some 8
  | _ => none

def hexValue? (c : Char) : Option Nat :=
  if c.isDigit then some (c.toNat - 48)
  else if 'a' ≤ c && c ≤ 'f' then some (c.toNat - 87)
  else if 'A' ≤ c && c ≤ 'F' then some (c.toNat - 55)
  else none

/-- Where the reading stands: in the text, in blanks, in the breaks behind a break or behind an
escaped break, behind a single quote that may be the first of two, or in an escape. -/
inductive State
  | text
  | blanks (cs : List Char)
  | breaks (first : Char) (further : List Char)
  | joined (further : List Char)
  | quote
  | escape
  | hex (owed code : Nat)
  deriving DecidableEq, Repr

namespace State

def held : State → List Char
  | blanks cs => cs
  | breaks first further => foldBreaks first further
  | joined further => further
  | _ => []

def afterGap (c : Char) : State → State
  | text => blanks [c]
  | blanks cs => blanks (cs ++ [c])
  | s => s

def afterBreak (c : Char) : State → State
  | breaks first further => breaks first (further ++ [breakChar c])
  | joined further => joined (further ++ [breakChar c])
  | _ => breaks (breakChar c) []

end State

def prepend (front : List Point) (r : Except Fault (List Point × List Char)) :
    Except Fault (List Point × List Char) :=
  r.map fun (text, rest) => (front ++ text, rest)

def prependChars (front : List Char) (r : Except Fault (List Point × List Char)) :
    Except Fault (List Point × List Char) :=
  prepend (Point.chars front) r

def maxCode : Nat := 0x7FFFFFFF

def ofCode (code : Nat) : Except Fault Point :=
  if h : 0xD800 ≤ code ∧ code < 0xE000 then .ok (.surrogate ⟨code - 0xD800, by omega⟩)
  else if code < 0x110000 then .ok (.char (Char.ofNat code))
  else .error (if code ≤ maxCode then .badCodePoint else .hugeCodePoint)

/-- The text of a scalar, up to its closing quote, and what stands behind that; `behind` is the
fault at the end of the characters. -/
def readFrom (double : Bool) (behind : Fault) :
    State → List Char → Except Fault (List Point × List Char)
  | .quote, [] => .ok ([], [])
  | _, [] => .error behind
  | .quote, c :: cs =>
    if c = '\'' then prependChars [c] (readFrom double behind .text cs) else .ok ([], c :: cs)
  | .escape, c :: cs =>
    if Scalar.isBreak c then
      if atSeparator cs then .error .malformed else readFrom double behind (.joined []) cs
    else match shortEscape? c, longEscape? c with
      | some e, _ => prependChars [e] (readFrom double behind .text cs)
      | none, some owed => readFrom double behind (.hex owed 0) cs
      | none, none => .error .malformed
  | .hex owed code, c :: cs =>
    match hexValue? c with
    | none => .error .malformed
    | some d =>
      let code := 16 * code + d
      if 1 < owed then readFrom double behind (.hex (owed - 1) code) cs
      else match ofCode code with
        | .ok p => prepend [p] (readFrom double behind .text cs)
        | .error f => .error f
  | s, c :: cs =>
    if isGap c then readFrom double behind (s.afterGap c) cs
    else if Scalar.isBreak c then
      if atSeparator cs then .error .malformed else readFrom double behind (s.afterBreak c) cs
    else prependChars s.held <|
      if double && c = '"' then .ok ([], cs)
      else if double && c = '\\' then readFrom double behind .escape cs
      else if !double && c = '\'' then readFrom double behind .quote cs
      else prependChars [c] (readFrom double behind .text cs)

end ScenarioScript.Yaml.Enclosed
