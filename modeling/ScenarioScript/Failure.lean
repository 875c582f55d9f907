import ScenarioScript.Path
import ScenarioScript.Utf8
import ScenarioScript.Yaml.Place

namespace ScenarioScript

inductive Failure
  | noScript (path : Path)
  | wrongSuffix (suffix : String)
  | emptyScript (path : Path)
  | noSettings (path : Path)
  | malformedSettings (path : Path)
  | noMapping (typeName : String) (path : Path)
  | wrongType (key expected got : String)
  | badValue (fault : Yaml.Fault)
  | longKey
  | directory (path : Path)
  | badText (fault : Utf8.Fault)
  deriving DecidableEq, Repr

namespace Failure

inductive Kind
  | notFound | value | decoding | directory | index | key | attribute | overflow | type
  deriving DecidableEq, Repr

def valueKind : Yaml.Fault → Kind
  | .emptyNumber => .index
  | .hugeCodePoint | .hugeReal => .overflow
  | .badTruth _ => .key
  | .noTime => .attribute
  | .timeOfRecord => .type
  | .badOctets _ => .decoding
  | _ => .value

def kind : Failure → Kind
  | noScript _ | noSettings _ => .notFound
  | directory _ => .directory
  | badText _ => .decoding
  | badValue fault => valueKind fault
  | _ => .value

def isTold (f : Failure) : Bool :=
  [.notFound, .value, .decoding].contains f.kind

def scriptSuffixes : List String :=
  [".e2e", ".dsl"]

def message : Failure → String
  | noScript path => "Scenario file not found: " ++ path.text
  | wrongSuffix suffix =>
    "Expected one of " ++ ", ".intercalate scriptSuffixes ++ " files, got: " ++
      (if suffix.isEmpty then "<none>" else suffix)
  | emptyScript path => "Empty scenario file: " ++ path.text
  | noSettings path => "Config file not found: " ++ path.text
  | malformedSettings path => "Malformed config file " ++ path.text
  | noMapping typeName path =>
    "Config must be a YAML mapping, got " ++ typeName ++ " in " ++ path.text
  | wrongType key expected got =>
    "Config key '" ++ key ++ "' must be " ++ expected ++ ", got " ++ got
  | badValue fault => fault.message?.getD ""
  | longKey =>
    "Exceeds the limit (4300 digits) for integer string conversion; " ++
      "use sys.set_int_max_str_digits() to increase the limit"
  | directory path => "[Errno 21] Is a directory: " ++ Text.quoted path.text
  | badText fault => fault.message

end Failure

end ScenarioScript
