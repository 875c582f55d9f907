import ScenarioScript.Document.Model
import ScenarioScript.Yaml.Scalar

/-! YAML text of documents, in block style. Records are indented by two columns; a list that is a
field stands at the column of its record. -/

namespace ScenarioScript.Document.Yaml

open ScenarioScript.Yaml (Point Scalar.spaces Scalar.chars)

section Spelled

variable (spell : String → List Point)

mutual

/-- A document behind a key or a dash that ends at a column; `indent` is where the fields of a
record start, and scalars continue there. Texts are spelled with the points they stand for. -/
def value (indent column : Nat) : Document → List Char
  | .null => " null\n".toList
  | .bool true => " true\n".toList
  | .bool false => " false\n".toList
  | .int n => ' ' :: Decimal.chars n ++ ['\n']
  | .text s => ' ' :: Scalar.chars indent (column + 1) (spell s) ++ ['\n']
  | .list [] => " []\n".toList
  | .list (d :: ds) => '\n' :: items (indent - 2) (d :: ds)
  | .record [] => " \x7b\x7d\n".toList
  | .record (f :: fs) => '\n' :: fields indent (f :: fs)

def items (indent : Nat) : List Document → List Char
  | [] => []
  | d :: ds => Scalar.spaces indent ++ '-' :: item indent d ++ items indent ds

def item (indent : Nat) : Document → List Char
  | .list (d :: ds) => " -".toList ++ item (indent + 2) d ++ items (indent + 2) ds
  | .record ((k, d) :: fs) =>
    ' ' :: k.toList ++ ':' :: value (indent + 4) (indent + 3 + k.length) d ++ fields (indent + 2) fs
  | d => value (indent + 2) (indent + 1) d

def fields (indent : Nat) : List (String × Document) → List Char
  | [] => []
  | (k, d) :: fs =>
    Scalar.spaces indent ++ k.toList ++ ':' :: value (indent + 2) (indent + k.length + 1) d ++
      fields indent fs

end

def spelled (fs : List (String × Document)) : String :=
  String.ofList (fields spell 0 fs)

end Spelled

def text (fs : List (String × Document)) : String :=
  spelled Point.ofText fs

end ScenarioScript.Document.Yaml

namespace ScenarioScript

def Scenario.yaml (s : Scenario) : String :=
  Document.Yaml.text s.fields

end ScenarioScript
