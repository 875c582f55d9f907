import ScenarioScript.Utf8
import ScenarioScript.Yaml.Scalar

namespace ScenarioScript.Yaml

structure Place where
  offset : Nat
  line : Nat
  column : Nat
  deriving DecidableEq, Repr

namespace Place

def next (p : Place) (c : Char) : Place :=
  if Scalar.isBreak c then ⟨p.offset + 1, p.line + 1, 0⟩
  else if c = '\ufeff' then ⟨p.offset + 1, p.line, p.column⟩
  else ⟨p.offset + 1, p.line, p.column + 1⟩

def after (p : Place) (cs : List Char) : Place :=
  cs.foldl next p

end Place

def breakChar (c : Char) : Char :=
  if c = '\u0085' then '\n' else c

/-- Breaks inside a scalar: a single one is a space, more are one less. -/
def foldBreaks (first : Char) (further : List Char) : List Char :=
  if first ≠ '\n' then first :: further
  else if further.isEmpty then [' ']
  else further

def atSeparator : List Char → Bool
  | '-' :: '-' :: '-' :: cs => Scalar.blankAhead cs
  | '.' :: '.' :: '.' :: cs => Scalar.blankAhead cs
  | _ => false

inductive Fault
  | malformed
  | badOctets (fault : Utf8.Fault)
  | badCodePoint
  | hugeCodePoint
  | badInteger (text : List Point) (base : Nat)
  | longInteger (digits : Nat)
  | emptyNumber
  | badReal (text : List Point)
  | hugeReal
  | badTruth (text : List Point)
  | badTime (fault : Timestamp.Fault)
  | noTime
  | timeOfRecord
  deriving DecidableEq, Repr

namespace Fault

def toldLength : Nat := 200

def message? : Fault → Option String
  | malformed => none
  | badOctets f => some f.message
  | badCodePoint => some "chr() arg not in range(0x110000)"
  | hugeCodePoint => some "Python int too large to convert to C int"
  | badInteger ps base =>
    some ("invalid literal for int() with base " ++ Decimal.text base ++ ": " ++
      String.ofList ((Point.quoted ps).toList.take toldLength))
  | longInteger digits =>
    some ("Exceeds the limit (4300 digits) for integer string conversion: value has " ++
      Decimal.text digits ++ " digits; use sys.set_int_max_str_digits() to increase the limit")
  | emptyNumber => some "string index out of range"
  | badReal ps => some ("could not convert string to float: " ++ Point.quoted ps)
  | hugeReal => some "int too large to convert to float"
  | badTruth ps => some (Point.quoted ps)
  | badTime f => some f.message
  | noTime => some "'NoneType' object has no attribute 'groupdict'"
  | timeOfRecord => some "expected string or bytes-like object, got 'list'"

end Fault

end ScenarioScript.Yaml
