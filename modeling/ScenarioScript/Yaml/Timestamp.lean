import ScenarioScript.Decimal

/-! Dates and times of YAML, read digit by digit and then held against the calendar. -/

namespace ScenarioScript.Yaml

structure Offset where
  negative : Bool
  hours : Nat
  minutes : Nat
  deriving DecidableEq, Repr

def Offset.seconds (o : Offset) : Int :=
  let s : Int := 3600 * o.hours + 60 * o.minutes
  if o.negative then -s else s

structure Clock where
  hour : Nat
  minute : Nat
  second : Nat
  offset : Option Offset
  deriving DecidableEq, Repr

structure Timestamp where
  year : Nat
  month : Nat
  day : Nat
  clock : Option Clock
  deriving DecidableEq, Repr

namespace Timestamp

def digit? (c : Char) : Option Nat :=
  if c.isDigit then some (c.toNat - 48) else none

def two? : List Char → Option (Nat × List Char)
  | a :: b :: cs => do return (10 * (← digit? a) + (← digit? b), cs)
  | _ => none

def oneOrTwo? (cs : List Char) : Option (Nat × List Char) :=
  match two? cs with
  | some r => some r
  | none => match cs with
    | a :: rest => do return (← digit? a, rest)
    | [] => none

def mark? (mark : Char) : List Char → Option (List Char)
  | c :: cs => if c = mark then some cs else none
  | [] => none

def isGap (c : Char) : Bool :=
  c = ' ' || c = '\t'

def parting? : List Char → Option (List Char)
  | [] => none
  | c :: cs =>
    if c = 'T' || c = 't' then some cs
    else if isGap c then some (cs.dropWhile isGap)
    else none

def skipFraction : List Char → List Char
  | '.' :: cs => cs.dropWhile Char.isDigit
  | cs => cs

def offset? (cs : List Char) : Option (Option Offset) :=
  match cs.dropWhile isGap with
  | [] => if cs.isEmpty then some none else none
  | ['Z'] => some none
  | sign :: rest =>
    if sign = '+' || sign = '-' then do
      let (hours, rest) ← oneOrTwo? rest
      match rest with
      | [] => some (some ⟨sign = '-', hours, 0⟩)
      | ':' :: rest =>
        let (minutes, rest) ← two? rest
        if rest.isEmpty then some (some ⟨sign = '-', hours, minutes⟩) else none
      | _ => none
    else none

def clock? (cs : List Char) : Option Clock := do
  let (hour, cs) ← oneOrTwo? cs
  let (minute, cs) ← two? (← mark? ':' cs)
  let (second, cs) ← two? (← mark? ':' cs)
  return ⟨hour, minute, second, ← offset? (skipFraction cs)⟩

def read? (cs : List Char) : Option Timestamp := do
  let (century, cs) ← two? cs
  let (year, cs) ← two? cs
  let (month, cs) ← oneOrTwo? (← mark? '-' cs)
  let (day, cs) ← oneOrTwo? (← mark? '-' cs)
  if cs.isEmpty then return ⟨100 * century + year, month, day, none⟩
  else return ⟨100 * century + year, month, day, some (← clock? (← parting? cs))⟩

/-- A date alone is taken for one only if month and day have two digits. -/
def isWritten (cs : List Char) : Bool :=
  match read? cs with
  | none => false
  | some t => t.clock.isSome || cs.length = 10

def isLeap (year : Nat) : Bool :=
  year % 4 = 0 && (year % 100 ≠ 0 || year % 400 = 0)

def daysIn (year month : Nat) : Nat :=
  if month = 2 then (if isLeap year then 29 else 28)
  else if month = 4 || month = 6 || month = 9 || month = 11 then 30
  else 31

inductive Fault
  | offset (o : Offset)
  | year (n : Nat)
  | month
  | day
  | hour
  | minute
  | second
  deriving DecidableEq, Repr

def spanText (seconds : Int) : String :=
  let days := seconds / 86400
  let rest := seconds % 86400
  let parts :=
    (if days = 0 then [] else ["days=" ++ Decimal.text days]) ++
    (if rest = 0 then [] else ["seconds=" ++ Decimal.text rest])
  "datetime.timedelta(" ++ (if parts.isEmpty then "0" else ", ".intercalate parts) ++ ")"

def Fault.message : Fault → String
  | offset o =>
    "offset must be a timedelta strictly between -timedelta(hours=24) and " ++
      "timedelta(hours=24), not " ++ spanText o.seconds ++ "."
  | year n => "year " ++ Decimal.text n ++ " is out of range"
  | month => "month must be in 1..12"
  | day => "day is out of range for month"
  | hour => "hour must be in 0..23"
  | minute => "minute must be in 0..59"
  | second => "second must be in 0..59"

def clockFault? (c : Clock) : Option Fault :=
  if 23 < c.hour then some .hour
  else if 59 < c.minute then some .minute
  else if 59 < c.second then some .second
  else none

def calendarFault? (t : Timestamp) : Option Fault :=
  if t.year = 0 then some (.year t.year)
  else if t.month = 0 || 12 < t.month then some .month
  else if t.day = 0 || daysIn t.year t.month < t.day then some .day
  else t.clock.bind clockFault?

def fault? (t : Timestamp) : Option Fault :=
  match t.clock.bind (·.offset) with
  | some o => if o.seconds.natAbs < 86400 then t.calendarFault? else some (.offset o)
  | none => t.calendarFault?

end Timestamp

end ScenarioScript.Yaml
