import ScenarioScript.Text.Lines
import ScenarioScript.Text.Numeral

/-! Integers in decimal notation, written with ASCII digits and read in the digits of any script. -/

namespace ScenarioScript.Decimal

def maxDigits : Nat := 4300

def digitChars (n : Nat) : List Char :=
  Nat.toDigits 10 n

def chars : Int → List Char
  | .ofNat n => digitChars n
  | .negSucc n => '-' :: digitChars (n + 1)

def text (n : Int) : String :=
  String.ofList (chars n)

def isShort (n : Int) : Bool :=
  (digitChars n.natAbs).length ≤ maxDigits

def digits? : List Char → Option (List Nat)
  | [] => none
  | [c] => (Text.digitValue? c).map ([·])
  | c :: '_' :: cs => do return (← Text.digitValue? c) :: (← digits? cs)
  | c :: cs => do return (← Text.digitValue? c) :: (← digits? cs)

def valueOf (digits : List Nat) : Nat :=
  digits.foldl (fun n d => 10 * n + d) 0

def natural? (cs : List Char) : Option Nat := do
  let ds ← digits? cs
  if ds.length ≤ maxDigits then some (valueOf ds) else none

/-- Blanks that may stand around a number: all but the information separators. -/
def isPadding (c : Char) : Bool :=
  Text.isBlank c && !(28 ≤ c.toNat && c.toNat ≤ 31)

def stripPadding (cs : List Char) : List Char :=
  ((cs.dropWhile isPadding).reverse.dropWhile isPadding).reverse

def read? (s : String) : Option Int :=
  match stripPadding s.toList with
  | '-' :: cs => (natural? cs).map fun n => -(n : Int)
  | '+' :: cs => (natural? cs).map Int.ofNat
  | cs => (natural? cs).map Int.ofNat

end ScenarioScript.Decimal
