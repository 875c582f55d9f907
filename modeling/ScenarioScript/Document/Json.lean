import ScenarioScript.Decimal
import ScenarioScript.Document
import ScenarioScript.Text.Quoted

/-! JSON text of documents, on one line or indented by two spaces. Only quotes, backslashes and
control characters are escaped. -/

namespace ScenarioScript.Document.Json

def escape (c : Char) : List Char :=
  match c with
  | '"' => ['\\', '"']
  | '\\' => ['\\', '\\']
  | '\n' => ['\\', 'n']
  | '\r' => ['\\', 'r']
  | '\t' => ['\\', 't']
  | '\x08' => ['\\', 'b']
  | '\x0c' => ['\\', 'f']
  | c => if c.toNat < 32 then '\\' :: 'u' :: Text.hexDigits 4 c.toNat else [c]

def string (s : String) : List Char :=
  '"' :: s.toList.flatMap escape ++ ['"']

def key (s : String) : List Char :=
  string s ++ [':', ' ']

structure Layout where
  opening : Nat → List Char
  between : Nat → List Char
  closing : Nat → List Char

def newline (depth : Nat) : List Char :=
  '\n' :: List.replicate (2 * depth) ' '

def compact : Layout :=
  ⟨fun _ => [], fun _ => [',', ' '], fun _ => []⟩

def pretty : Layout :=
  ⟨fun d => newline (d + 1), fun d => ',' :: newline (d + 1), newline⟩

inductive Piece
  | chars (cs : List Char)
  | int (n : Int)
  | quoted (s : String)
  deriving DecidableEq, Repr

def Piece.text : Piece → List Char
  | chars cs => cs
  | int n => Decimal.chars n
  | quoted s => string s

def Piece.isWritable (isMute : String → Bool) : Piece → Bool
  | chars _ => true
  | int n => Decimal.isShort n
  | quoted s => !isMute s

mutual

def pieces (l : Layout) (depth : Nat) : Document → List Piece
  | .null => [.chars "null".toList]
  | .bool true => [.chars "true".toList]
  | .bool false => [.chars "false".toList]
  | .int n => [.int n]
  | .text s => [.quoted s]
  | .list [] => [.chars ['[', ']']]
  | .list (d :: ds) =>
    .chars ('[' :: l.opening depth) :: pieces l (depth + 1) d ++ items l depth ds ++
      [.chars (l.closing depth ++ [']'])]
  | .record [] => [.chars ['\x7b', '\x7d']]
  | .record ((k, d) :: fs) =>
    .chars ('\x7b' :: l.opening depth ++ key k) :: pieces l (depth + 1) d ++
      fields l depth fs ++ [.chars (l.closing depth ++ ['\x7d'])]

def items (l : Layout) (depth : Nat) : List Document → List Piece
  | [] => []
  | d :: ds => .chars (l.between depth) :: pieces l (depth + 1) d ++ items l depth ds

def fields (l : Layout) (depth : Nat) : List (String × Document) → List Piece
  | [] => []
  | (k, d) :: fs =>
    .chars (l.between depth ++ key k) :: pieces l (depth + 1) d ++ fields l depth fs

end

def layout (pretty : Bool) : Layout :=
  if pretty then Json.pretty else compact

end ScenarioScript.Document.Json

namespace ScenarioScript.Document

def json (d : Document) (pretty : Bool) : String :=
  String.ofList ((Json.pieces (Json.layout pretty) 0 d).flatMap Json.Piece.text)

/-- As much of the text as can be written: all of it, unless a number has too many digits or a text
of the document has no octets. -/
def writableJson (isMute : String → Bool) (d : Document) (pretty : Bool) : String :=
  String.ofList
    (((Json.pieces (Json.layout pretty) 0 d).takeWhile (Json.Piece.isWritable isMute)).flatMap
      Json.Piece.text)

end ScenarioScript.Document
