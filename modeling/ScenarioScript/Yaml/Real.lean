import ScenarioScript.Yaml.Place

namespace ScenarioScript.Yaml.Real

def isDigit (c : Char) : Bool :=
  (Text.digitValue? c).isSome

def isExponent : List Char → Bool
  | [] => true
  | c :: cs => (c = 'e' || c = 'E') && !(Plain.unsigned cs).isEmpty && (Plain.unsigned cs).all isDigit

def infinities : List String :=
  ["inf", "infinity"]

def isDecimal (cs : List Char) : Bool :=
  let rest := cs.dropWhile isDigit
  match rest with
  | '.' :: fraction =>
    (rest.length < cs.length || fraction.head?.any isDigit) &&
      isExponent (fraction.dropWhile isDigit)
  | rest => rest.length < cs.length && isExponent rest

def isReal (cs : List Char) : Bool :=
  let cs := Plain.unsigned (Decimal.stripPadding cs)
  let word := String.ofList (cs.map Char.toLower)
  word = "nan" || infinities.contains word || isDecimal cs

/-- Sixty to the power of this number is beyond all reals. -/
def maxParts : Nat := 174

def check (ps : List Point) : Except Fault Unit :=
  if isReal (Point.shapes ps) then .ok () else .error (.badReal ps)

/-- Parts of base sixty. That one is no number is found before there are too many. -/
def checkParts (parts : List (List Point)) : Except Fault Unit := do
  parts.forM check
  if maxParts < parts.length then throw .hugeReal

def readUnsigned (ps : List Point) : Except Fault Unit :=
  if ps = Point.ofText ".inf" || ps = Point.ofText ".nan" then .ok ()
  else if ps.contains (.char ':') then checkParts (Point.parts ps)
  else check ps

def read (ps : List Point) : Except Fault Unit :=
  match Point.smallLetters (ps.filter (· ≠ .char '_')) with
  | [] => .error .emptyNumber
  | ps => readUnsigned (Point.unsigned ps)

end ScenarioScript.Yaml.Real
