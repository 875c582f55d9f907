import ScenarioScript.Yaml.Enclosed

namespace ScenarioScript.Yaml.Integer

def digitBelow? (base : Nat) (c : Char) : Option Nat :=
  ((Text.digitValue? c).or (Enclosed.hexValue? c)).bind fun d => if d < base then some d else none

def baseLetter : Nat → Char
  | 2 => 'b'
  | 8 => 'o'
  | _ => 'x'

def unannounced (base : Nat) : List Char → List Char
  | '0' :: c :: cs => if c.toLower = baseLetter base then cs else '0' :: c :: cs
  | cs => cs

def inBase (base : Nat) (cs : List Char) : Option Nat :=
  if cs.isEmpty then none
  else cs.foldl (fun n c => do return base * (← n) + (← digitBelow? base c)) (some 0)

def ofBase (base : Nat) (ps : List Point) : Except Fault Int :=
  let value := match Decimal.stripPadding (Point.shapes ps) with
    | '-' :: cs => (inBase base (unannounced base cs)).map fun n => -(n : Int)
    | '+' :: cs => (inBase base (unannounced base cs)).map Int.ofNat
    | cs => (inBase base (unannounced base cs)).map Int.ofNat
  match value with
  | some n => .ok n
  | none => .error (.badInteger ps base)

def leadingDigits (cs : List Char) : List Char :=
  (Plain.unsigned (Decimal.stripPadding cs)).takeWhile (Text.digitValue? · |>.isSome)

/-- A decimal integer. That it has too many digits is found before what stands behind them. -/
def decimal (ps : List Point) : Except Fault Int :=
  let cs := Point.shapes ps
  let digits := (leadingDigits cs).length
  if Decimal.maxDigits < digits then .error (.longInteger digits)
  else match Decimal.read? (String.ofList cs) with
    | some n => .ok n
    | none => .error (.badInteger ps 10)

def unsigned (ps : List Point) : Except Fault Int :=
  match ps with
  | [] => .error .emptyNumber
  | [.char '0'] => .ok 0
  | .char '0' :: .char 'b' :: rest => ofBase 2 rest
  | .char '0' :: .char 'x' :: rest => ofBase 16 rest
  | .char '0' :: _ => ofBase 8 ps
  | _ =>
    if ps.contains (.char ':') then do
      return (← (Point.parts ps).mapM decimal).foldl (fun n d => 60 * n + d) 0
    else decimal ps

def read (ps : List Point) : Except Fault Int :=
  match ps.filter (· ≠ .char '_') with
  | .char '-' :: ps => return -(← unsigned ps)
  | .char '+' :: ps => unsigned ps
  | ps => unsigned ps

end ScenarioScript.Yaml.Integer
