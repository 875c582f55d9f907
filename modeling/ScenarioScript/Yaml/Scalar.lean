import ScenarioScript.Yaml.PlainKind
import ScenarioScript.Yaml.Point

/-! Texts as YAML scalars: plain where that reads back as the same text, else in single quotes, and
in double quotes where only escapes will do. Long texts are folded at spaces. -/

namespace ScenarioScript.Yaml.Scalar

def width : Nat := 80

def isBreak (c : Char) : Bool :=
  c = '\n' || c = '\u0085' || c = '\u2028' || c = '\u2029'

def isBlank (c : Char) : Bool :=
  c = '\x00' || c = ' ' || c = '\t' || c = '\r' || isBreak c

def isOrdinary (c : Char) : Bool :=
  let n := c.toNat
  n = 10 || (0x20 ≤ n && n ≤ 0x7E) || n = 0x85 || (0xA0 ≤ n && n ≤ 0xD7FF) ||
    (0xE000 ≤ n && n ≤ 0xFFFD && n ≠ 0xFEFF) || (0x10000 ≤ n && n < 0x10FFFF)

def hasPair (p q : Char → Bool) : List Char → Bool
  | a :: b :: cs => (p a && q b) || hasPair p q (b :: cs)
  | _ => false

def isSpace (c : Char) : Bool :=
  c = ' '

def needsEscapes (cs : List Char) : Bool :=
  !cs.all isOrdinary || hasPair isSpace isBreak cs || hasPair isBreak isSpace cs

def blankAhead : List Char → Bool
  | c :: _ => isBlank c
  | [] => true

def hasIndicator : List Char → Bool
  | [] => false
  | ':' :: cs => blankAhead cs || hasIndicator cs
  | c :: '#' :: cs => isBlank c || hasIndicator ('#' :: cs)
  | _ :: cs => hasIndicator cs

def indicators : List Char :=
  "#,[]\x7b\x7d&*!|>'\"%@`".toList

def startsWithIndicator (cs : List Char) : Bool :=
  "---".toList.isPrefixOf cs || "...".toList.isPrefixOf cs ||
    match cs with
    | c :: rest => indicators.contains c || ((c = '?' || c = ':' || c = '-') && blankAhead rest)
    | [] => false

def isPlain (cs : List Char) : Bool :=
  !cs.any isBreak && cs.head? ≠ some ' ' && cs.getLast? ≠ some ' ' && !startsWithIndicator cs &&
    !hasIndicator cs && plainKind cs = .text

inductive Style
  | plain | single | double
  deriving DecidableEq, Repr

def style (cs : List Char) : Style :=
  if needsEscapes cs then .double else if isPlain cs then .plain else .single

def pointStyle (ps : List Point) : Style :=
  if ps.all Point.isChar then style (Point.shapes ps) else .double

@[simp] theorem pointStyle_chars (cs : List Char) : pointStyle (Point.chars cs) = style cs := by
  simp [pointStyle]

theorem style_of_pointStyle {ps : List Point} (h : pointStyle ps ≠ .double) :
    style (Point.shapes ps) = pointStyle ps := by
  rw [pointStyle] at h ⊢
  split at h
  · next hall => rw [if_pos hall]
  · exact absurd rfl h

inductive Run
  | word (cs : List Char)
  | spaces (n : Nat)
  | breaks (cs : List Char)
  deriving DecidableEq, Repr

def addSpace : List Run → List Run
  | .spaces n :: rs => .spaces (n + 1) :: rs
  | rs => .spaces 1 :: rs

def addBreak (c : Char) : List Run → List Run
  | .breaks cs :: rs => .breaks (c :: cs) :: rs
  | rs => .breaks [c] :: rs

def addToWord (c : Char) : List Run → List Run
  | .word cs :: rs => .word (c :: cs) :: rs
  | rs => .word [c] :: rs

def runs : List Char → List Run
  | [] => []
  | c :: cs =>
    if c = ' ' then addSpace (runs cs)
    else if isBreak c then addBreak c (runs cs)
    else addToWord c (runs cs)

def spaces (n : Nat) : List Char :=
  List.replicate n ' '

def continued (indent : Nat) : List Char :=
  '\n' :: spaces indent

def plainChars (indent column : Nat) : List Run → List Char
  | [] => []
  | .word cs :: rs => cs ++ plainChars indent (column + cs.length) rs
  | .spaces n :: rs =>
    if n = 1 && width < column then continued indent ++ plainChars indent indent rs
    else spaces n ++ plainChars indent (column + n) rs
  | .breaks cs :: rs => cs ++ plainChars indent 0 rs

def doubleQuotes (cs : List Char) : List Char :=
  cs.flatMap fun c => if c = '\'' then [c, c] else [c]

/-- The inside of single quotes from a column on. A space that stands alone is a place to fold
unless it is the first or last of the text; a line feed is written twice where it opens a
run of breaks. -/
def singleChars (indent column : Nat) (first : Bool) : List Run → List Char
  | [] => []
  | .word cs :: rs =>
    doubleQuotes cs ++ singleChars indent (column + (doubleQuotes cs).length) false rs
  | .spaces n :: rs =>
    if n = 1 && !first && !rs.isEmpty && width < column then
      continued indent ++ singleChars indent indent false rs
    else spaces n ++ singleChars indent (column + n) false rs
  | .breaks cs :: rs =>
    (if cs.head? = some '\n' then ['\n'] else []) ++ cs ++ spaces indent ++
      singleChars indent indent false rs

def isRaw (c : Char) : Bool :=
  let n := c.toNat
  c ≠ '"' && c ≠ '\\' && n ≠ 0x2028 && n ≠ 0x2029 && n ≠ 0xFEFF &&
    ((0x20 ≤ n && n ≤ 0x7E) || (0xA0 ≤ n && n ≤ 0xD7FF) || (0xE000 ≤ n && n ≤ 0xFFFD))

def upperHex (width n : Nat) : List Char :=
  (Text.hexDigits width n).map Char.toUpper

def shortEscapes : List (Char × Char) := [
  ('\x00', '0'), ('\x07', 'a'), ('\x08', 'b'), ('\t', 't'), ('\n', 'n'), ('\x0b', 'v'),
  ('\x0c', 'f'), ('\r', 'r'), ('\x1b', 'e'), ('"', '"'), ('\\', '\\'), ('\u0085', 'N'),
  ('\u00a0', '_'), ('\u2028', 'L'), ('\u2029', 'P')]

def escape (c : Char) : List Char :=
  match shortEscapes.lookup c with
  | some e => ['\\', e]
  | none =>
    if c.toNat ≤ 0xFF then '\\' :: 'x' :: upperHex 2 c.toNat
    else if c.toNat ≤ 0xFFFF then '\\' :: 'u' :: upperHex 4 c.toNat
    else '\\' :: 'U' :: upperHex 8 c.toNat

def raw? : Point → Option Char
  | .char c => if isRaw c then some c else none
  | .surrogate _ => none

def pointEscape : Point → List Char
  | .char c => escape c
  | .surrogate n => '\\' :: 'u' :: upperHex 4 (Point.firstSurrogate + n)

/-- The inside of double quotes from a column on. A line is folded behind an escape or before a
space, but not at the ends of the text; a space that opens a line is kept by a backslash. -/
def doubleChars (indent column : Nat) (first escaped : Bool) : List Point → List Char
  | [] => []
  | p :: ps =>
    let inner := !first && !ps.isEmpty
    match raw? p with
    | some c =>
      if inner && (c = ' ' || escaped) && width < column then
        let kept := if c = ' ' then ['\\'] else []
        '\\' :: continued indent ++ kept ++ c ::
          doubleChars indent (indent + kept.length + 1) false false ps
      else c :: doubleChars indent (column + 1) false false ps
    | none =>
      let column := column + (pointEscape p).length
      if inner && width + 1 < column then
        let kept := if ps.head? = some (.char ' ') then ['\\'] else []
        pointEscape p ++ '\\' :: continued indent ++ kept ++
          doubleChars indent (indent + kept.length) false true ps
      else pointEscape p ++ doubleChars indent column false true ps

def chars (indent column : Nat) (ps : List Point) : List Char :=
  match pointStyle ps with
  | .plain => plainChars indent column (runs (Point.shapes ps))
  | .single => '\'' :: singleChars indent (column + 1) true (runs (Point.shapes ps)) ++ ['\'']
  | .double => '"' :: doubleChars indent (column + 1) true false ps ++ ['"']

end ScenarioScript.Yaml.Scalar
