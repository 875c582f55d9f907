import ScenarioScript.Yaml.BlockText
import ScenarioScript.Yaml.Enclosed
import ScenarioScript.Yaml.Unquoted

/-! Symbols of a YAML text: its marks and scalars, with the starts and ends of the blocks that
indentation makes. A key of one line has no mark of its own; it is known by the colon behind it. -/

namespace ScenarioScript.Yaml

inductive Directive
  | version (major : Nat)
  | tag (handle leading : String)
  | other
  deriving DecidableEq, Repr

inductive Symbol
  | directive (d : Directive)
  | documentStart | documentEnd
  | sequenceStart | mappingStart | blockEnd
  | listOpen | listClose | recordOpen | recordClose
  | entry | comma | key | value
  | alias (name : String)
  | anchor (name : String)
  | tag (handle : Option String) (suffix : String)
  | scalar (text : List Point) (plain : Bool)
  deriving DecidableEq, Repr

namespace Symbol

def isNameChar (c : Char) : Bool :=
  c.isAlphanum || c = '-' || c = '_'

def isUriChar (c : Char) : Bool :=
  c.isAlphanum || "-;/?:@&=+$,_.!~*'()[]".toList.contains c

def lineBlankAhead : List Char → Bool
  | c :: _ => c = ' ' || Scalar.isBreak c
  | [] => true

def name? (cs : List Char) : Option (String × List Char) :=
  let rest := cs.dropWhile isNameChar
  let ended := Scalar.blankAhead rest || rest.head?.any fun c => "?:,]\x7d%@`".toList.contains c
  if ended && rest.length < cs.length then
    some (String.ofList (cs.takeWhile isNameChar), rest)
  else none

def uriOctets : List Char → Option (List UInt8 × List Char)
  | '%' :: a :: b :: cs => do
    let octet := UInt8.ofNat (16 * (← Enclosed.hexValue? a) + (← Enclosed.hexValue? b))
    let (octets, rest) ← uriOctets cs
    return (octet :: octets, rest)
  | '%' :: _ => none
  | cs => some ([], cs)

def uriFrom (cs : List Char) : Option (List Char × List Char) :=
  match cs with
  | [] => some ([], [])
  | c :: cs =>
    if c = '%' then
      match uriOctets ('%' :: cs) with
      | none => none
      | some (octets, rest) =>
        if _h : rest.length < cs.length + 1 then
          match Utf8.chars octets with
          | .error _ => none
          | .ok text => (uriFrom rest).map fun (tail, rest) => (text ++ tail, rest)
        else none
    else if isUriChar c then (uriFrom cs).map fun (tail, rest) => (c :: tail, rest)
    else some ([], c :: cs)
termination_by cs.length

def uri? (cs : List Char) : Option (String × List Char) :=
  match cs with
  | [] => none
  | c :: _ =>
    if c = '%' || isUriChar c then (uriFrom cs).map fun (text, rest) => (String.ofList text, rest)
    else none

def handle? : List Char → Option (String × List Char)
  | '!' :: ' ' :: cs => some ("!", ' ' :: cs)
  | '!' :: cs =>
    match cs.dropWhile isNameChar with
    | '!' :: rest => some (String.ofList ('!' :: cs.takeWhile isNameChar ++ ['!']), rest)
    | _ => none
  | _ => none

def hasHandle (cs : List Char) : Bool :=
  match cs.dropWhile fun c => c ≠ '!' && c ≠ ' ' && !Scalar.isBreak c with
  | '!' :: _ => true
  | _ => false

def tag? (cs : List Char) : Option (Symbol × List Char) := do
  let (symbol, rest) ←
    match cs with
    | '<' :: cs => do
      let (uri, rest) ← uri? cs
      match rest with
      | '>' :: rest => some (Symbol.tag none uri, rest)
      | _ => none
    | cs =>
      if Scalar.blankAhead cs then some (Symbol.tag none "!", cs)
      else if hasHandle cs then do
        let (handle, rest) ← handle? ('!' :: cs)
        let (uri, rest) ← uri? rest
        some (Symbol.tag (some handle) uri, rest)
      else do
        let (uri, rest) ← uri? cs
        some (Symbol.tag (some "!") uri, rest)
  if lineBlankAhead rest then some (symbol, rest) else none

def readNumber (cs : List Char) : Except Fault (Nat × List Char) :=
  let digits := cs.takeWhile Char.isDigit
  if digits.isEmpty then .error .malformed
  else if Decimal.maxDigits < digits.length then .error (.longInteger digits.length)
  else .ok (Nat.ofDigitChars 10 digits 0, cs.dropWhile Char.isDigit)

def skipSpaces (cs : List Char) : List Char :=
  cs.dropWhile (· = ' ')

def readVersion (cs : List Char) : Except Fault (Directive × List Char) := do
  let (major, rest) ← readNumber (skipSpaces cs)
  match rest with
  | '.' :: rest =>
    let (_, rest) ← readNumber rest
    if lineBlankAhead rest then return (.version major, rest) else throw .malformed
  | _ => throw .malformed

def tagDirective? (cs : List Char) : Option (Directive × List Char) := do
  let (handle, rest) ← handle? (skipSpaces cs)
  if rest.head? = some ' ' then
    let (leading, rest) ← uri? (skipSpaces rest)
    if lineBlankAhead rest then some (.tag handle leading, rest) else none
  else none

def expected {α : Type} : Option α → Except Fault α
  | some a => .ok a
  | none => .error .malformed

def readDirective (cs : List Char) : Except Fault (Symbol × List Char) := do
  let name := cs.takeWhile isNameChar
  let rest := cs.dropWhile isNameChar
  if name.isEmpty || !lineBlankAhead rest then throw .malformed
  let (d, rest) ←
    if name = "YAML".toList then readVersion rest
    else if name = "TAG".toList then expected (tagDirective? rest)
    else pure (Directive.other, rest.dropWhile (!Scalar.isBreak ·))
  return (.directive d, ← expected (BlockText.restOfLine rest))

end Symbol

end ScenarioScript.Yaml
