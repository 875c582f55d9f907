import ScenarioScript.Yaml.Timestamp

namespace ScenarioScript.Yaml

inductive PlainKind
  | null | bool | int | float | timestamp | merge | default | text
  deriving DecidableEq, Repr

namespace Plain

def nulls : List String :=
  ["", "~", "null", "Null", "NULL"]

def trues : List String :=
  ["yes", "Yes", "YES", "true", "True", "TRUE", "on", "On", "ON"]

def falses : List String :=
  ["no", "No", "NO", "false", "False", "FALSE", "off", "Off", "OFF"]

def unsigned : List Char → List Char
  | '-' :: cs => cs
  | '+' :: cs => cs
  | cs => cs

def isDigitOrBar (c : Char) : Bool :=
  c.isDigit || c = '_'

def isBinary (c : Char) : Bool :=
  c = '0' || c = '1' || c = '_'

def isOctal (c : Char) : Bool :=
  ('0' ≤ c && c ≤ '7') || c = '_'

def isHex (c : Char) : Bool :=
  c.isDigit || ('a' ≤ c && c ≤ 'f') || ('A' ≤ c && c ≤ 'F') || c = '_'

def sixties : List Char → Option (List Char)
  | ':' :: a :: b :: cs =>
    if '0' ≤ a && a ≤ '5' && b.isDigit then some ((sixties cs).getD cs)
    else if a.isDigit then some ((sixties (b :: cs)).getD (b :: cs))
    else none
  | [':', a] => if a.isDigit then some [] else none
  | _ => none

def isUnsignedInt : List Char → Bool
  | '0' :: 'b' :: cs => !cs.isEmpty && cs.all isBinary
  | '0' :: 'x' :: cs => !cs.isEmpty && cs.all isHex
  | '0' :: cs => cs.all isOctal
  | c :: cs =>
    c.isDigit && (cs.all isDigitOrBar || sixties (cs.dropWhile isDigitOrBar) = some [])
  | [] => false

def isInt (cs : List Char) : Bool :=
  isUnsignedInt (unsigned cs)

def isExponent : List Char → Bool
  | [] => true
  | e :: sign :: cs =>
    (e = 'e' || e = 'E') && (sign = '+' || sign = '-') && !cs.isEmpty && cs.all Char.isDigit
  | _ => false

def infinities : List String :=
  [".inf", ".Inf", ".INF"]

def nans : List String :=
  [".nan", ".NaN", ".NAN"]

def isFraction (cs : List Char) : Bool :=
  isExponent (cs.dropWhile isDigitOrBar)

def isSignedFloat : List Char → Bool
  | [] => false
  | c :: cs =>
    infinities.contains (String.ofList (c :: cs)) ||
    (c.isDigit && match cs.dropWhile isDigitOrBar with
      | '.' :: rest => isFraction rest
      | rest => match sixties rest with
        | some ('.' :: rest) => rest.all isDigitOrBar
        | _ => false)

def isFloat (cs : List Char) : Bool :=
  isSignedFloat (unsigned cs) || nans.contains (String.ofList cs) ||
    match cs with
    | '.' :: c :: rest => c.isDigit && isFraction rest
    | _ => false

end Plain

def withoutLastFeed (cs : List Char) : List Char :=
  if cs.getLast? = some '\n' && 1 < cs.length then cs.dropLast else cs

def plainKind (cs : List Char) : PlainKind :=
  let s := String.ofList cs
  if (Plain.trues ++ Plain.falses).contains s then .bool
  else if Plain.isFloat cs then .float
  else if Plain.isInt cs then .int
  else if s = "<<" then .merge
  else if Plain.nulls.contains s then .null
  else if Timestamp.isWritten cs then .timestamp
  else if s = "=" then .default
  else .text

end ScenarioScript.Yaml
