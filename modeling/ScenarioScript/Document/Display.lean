import ScenarioScript.Decimal
import ScenarioScript.Document
import ScenarioScript.Text.Quoted

namespace ScenarioScript.Document

mutual

def quoted : Document → String
  | null => "None"
  | bool true => "True"
  | bool false => "False"
  | int n => Decimal.text n
  | text s => Text.quoted s
  | list items => "[" ++ ", ".intercalate (quotedItems items) ++ "]"
  | record fields => "\x7b" ++ ", ".intercalate (quotedFields fields) ++ "\x7d"

def quotedItems : List Document → List String
  | [] => []
  | d :: ds => quoted d :: quotedItems ds

def quotedFields : List (String × Document) → List String
  | [] => []
  | (k, d) :: fs => (Text.quoted k ++ ": " ++ quoted d) :: quotedFields fs

end

def shown : Document → String
  | text s => s
  | d => d.quoted

mutual

def isWritable : Document → Bool
  | int n => Decimal.isShort n
  | list items => areWritable items
  | record fields => haveWritable fields
  | _ => true

def areWritable : List Document → Bool
  | [] => true
  | d :: ds => isWritable d && areWritable ds

def haveWritable : List (String × Document) → Bool
  | [] => true
  | (_, d) :: fs => isWritable d && haveWritable fs

end

def typeName : Document → String
  | null => "NoneType"
  | bool _ => "bool"
  | int _ => "int"
  | text _ => "str"
  | list _ => "list"
  | record _ => "dict"

def isTruthy : Document → Bool
  | null => false
  | bool b => b
  | int n => n ≠ 0
  | text s => !s.isEmpty
  | list items => !items.isEmpty
  | record fields => !fields.isEmpty

def number? : Document → Option Int
  | int n => some n
  | bool b => some (if b then 1 else 0)
  | _ => none

end ScenarioScript.Document
