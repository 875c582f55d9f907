import ScenarioScript.Yaml.Integer
import ScenarioScript.Yaml.Real
import ScenarioScript.Yaml.PlainKind

/-! Values of YAML documents. Of a real number, a point in time and octets only their kind is
kept. -/

namespace ScenarioScript.Yaml

inductive Tag
  | plain (kind : PlainKind)
  | octets
  | sequence | mapping | set | pairs
  | unknown
  deriving DecidableEq, Repr

namespace Tag

def core : String := "tag:yaml.org,2002:"

def coreTags : List (String × Tag) := [
  ("null", .plain .null), ("bool", .plain .bool), ("int", .plain .int), ("float", .plain .float),
  ("timestamp", .plain .timestamp), ("merge", .plain .merge), ("value", .plain .default),
  ("str", .plain .text), ("binary", .octets), ("seq", .sequence), ("map", .mapping),
  ("set", .set), ("omap", .pairs), ("pairs", .pairs)]

def ofUri (uri : String) : Tag :=
  match coreTags.find? (core ++ ·.1 = uri) with
  | some t => t.2
  | none => .unknown

end Tag

namespace Base64

def isDigit (c : Char) : Bool :=
  c.isAlphanum || c = '+' || c = '/'

/-- Whether groups of four are complete. `taken` characters of a group are read, with `pads` equals
signs behind them; a group of two or three that is filled up with such signs ends the octets. -/
def completeFrom (taken pads : Nat) : List Char → Bool
  | [] => taken = 0
  | c :: cs =>
    if c = '=' then
      if taken < 2 then completeFrom taken pads cs
      else 4 ≤ taken + pads + 1 || completeFrom taken (pads + 1) cs
    else if isDigit c then completeFrom ((taken + 1) % 4) 0 cs
    else completeFrom taken pads cs

def isComplete (cs : List Char) : Bool :=
  cs.all (·.toNat < 128) && completeFrom 0 0 cs

end Base64

inductive Value
  | null
  | bool (b : Bool)
  | int (n : Int)
  | float
  | date
  | datetime
  | octets
  | text (ps : List Point)
  | list (items : List Value)
  | set (members : List Value)
  | record (fields : List (Value × Value))
  deriving Repr

namespace Value

def typeName : Value → String
  | null => "NoneType"
  | bool _ => "bool"
  | int _ => "int"
  | float => "float"
  | date => "date"
  | datetime => "datetime"
  | octets => "bytes"
  | text _ => "str"
  | list _ => "list"
  | set _ => "set"
  | record _ => "dict"

def isKey : Value → Bool
  | list _ | set _ | record _ => false
  | _ => true

def sameKey : Value → Value → Bool
  | null, null => true
  | bool a, bool b => a = b
  | int m, int n => m = n
  | float, float | date, date | datetime, datetime | octets, octets => true
  | text ps, text qs => ps = qs
  | _, _ => false

def setField (k v : Value) : List (Value × Value) → List (Value × Value)
  | [] => [(k, v)]
  | (k', v') :: fs => if sameKey k' k then (k', v) :: fs else (k', v') :: setField k v fs

def distinct (fs : List (Value × Value)) : List (Value × Value) :=
  fs.foldl (fun r f => setField f.1 f.2 r) []

def ofTruth (ps : List Point) : Except Fault Value :=
  let small := Point.smallLetters ps
  let word := String.ofList (Point.shapes small)
  if Plain.trues.contains word then .ok (bool true)
  else if Plain.falses.contains word then .ok (bool false)
  else .error (.badTruth small)

def ofTime (ps : List Point) : Except Fault Value :=
  match Timestamp.read? (withoutLastFeed (Point.shapes ps)) with
  | none => .error .noTime
  | some t => match t.fault? with
    | some f => .error (.badTime f)
    | none => .ok (if t.clock.isSome then datetime else date)

def ofPoints (tag : Tag) (ps : List Point) : Except Fault Value :=
  match tag with
  | .plain .null => .ok null
  | .plain .bool => ofTruth ps
  | .plain .int => return int (← Integer.read ps)
  | .plain .float => do
    Real.read ps
    return float
  | .plain .timestamp => ofTime ps
  | .plain .text => .ok (text ps)
  | .octets => if Base64.isComplete (Point.shapes ps) then .ok octets else .error .malformed
  | _ => .error .malformed

end Value

end ScenarioScript.Yaml
