import ScenarioScript.Text.Letter
import ScenarioScript.Text.Lines
import ScenarioScript.Text.Numeral
import ScenarioScript.Token

/-! Lexemes: how far each token of a line reaches and what it stands for. Characters that start no
lexeme are skipped, so every line has tokens, if only few. -/

namespace ScenarioScript

namespace Lexeme

/-- A string after its opening quote: all up to the first quote that no backslash covers. -/
def stringTail : List Char → List Char
  | [] => []
  | '"' :: _ => ['"']
  | '\\' :: c :: cs => '\\' :: c :: stringTail cs
  | c :: cs => c :: stringTail cs

def unescape : Char → Char
  | 'n' => '\n'
  | 't' => '\t'
  | c => c

def stringText : List Char → List Char
  | [] => []
  | '"' :: _ => []
  | '\\' :: c :: cs => unescape c :: stringText cs
  | c :: cs => c :: stringText cs

def arrayTail (depth : Nat) : List Char → List Char
  | [] => []
  | '[' :: cs => '[' :: arrayTail (depth + 1) cs
  | ']' :: cs => match depth with
    | 0 => [']']
    | d + 1 => ']' :: arrayTail d cs
  | c :: cs => c :: arrayTail depth cs

def digitRun (cs : List Char) : List Char :=
  cs.takeWhile Char.isDigit

def numberTail (cs : List Char) : List Char :=
  match cs.dropWhile Char.isDigit with
  | '.' :: rest => digitRun cs ++ '.' :: digitRun rest
  | _ => digitRun cs

def isWordChar (c : Char) : Bool :=
  Text.isLetter c || Text.isNumeral c || c = '_'

def wordTail (cs : List Char) : List Char :=
  cs.takeWhile isWordChar

def startsWithDigit : List Char → Bool
  | c :: _ => c.isDigit
  | [] => false

/-- What the lexeme that starts with `c` is, and its characters after `c`; no kind where `c` is to
be skipped. -/
def reach (c : Char) (cs : List Char) : Option TokenKind × List Char :=
  if Text.isBlank c then (none, [])
  else if c = '"' then (some .string, stringTail cs)
  else if c = '#' && startsWithDigit cs then (some .targetId, digitRun cs)
  else if c = '[' then (some .array, arrayTail 0 cs)
  else if c = '{' then (some .braceOpen, [])
  else if c = '}' then (some .braceClose, [])
  else if c.isDigit || (c = '-' && startsWithDigit cs) then (some .number, numberTail cs)
  else if Text.isLetter c || c = '_' then (some .keyword, wordTail cs)
  else (none, [])

end Lexeme

def TokenKind.textOf (kind : TokenKind) (c : Char) (tail : List Char) : String :=
  String.ofList <| match kind with
    | .string => Lexeme.stringText tail
    | .targetId => tail
    | _ => c :: tail

namespace Token

def ofChars (line : Int) (column : Nat) : List Char → List Token
  | [] => []
  | c :: cs =>
    let tail := (Lexeme.reach c cs).2
    let rest := ofChars line (column + 1 + tail.length) (cs.drop tail.length)
    match (Lexeme.reach c cs).1 with
    | none => rest
    | some kind => ⟨kind, kind.textOf c tail, line, column⟩ :: rest
termination_by cs => cs.length
decreasing_by
  simp only [List.length_drop, List.length_cons]
  omega

theorem ofChars_nil (line : Int) (column : Nat) : ofChars line column [] = [] := by
  rw [ofChars.eq_def]

theorem ofChars_cons (line : Int) (column : Nat) (c : Char) (cs : List Char) :
    ofChars line column (c :: cs) =
      let tail := (Lexeme.reach c cs).2
      let rest := ofChars line (column + 1 + tail.length) (cs.drop tail.length)
      match (Lexeme.reach c cs).1 with
      | none => rest
      | some kind => ⟨kind, kind.textOf c tail, line, column⟩ :: rest := by
  rw [ofChars.eq_def]

def isComment (cs : List Char) : Bool :=
  match Text.trim cs with
  | [] => true
  | '#' :: _ => true
  | '/' :: '/' :: _ => true
  | _ => false

def ofLine (line : Int) (s : String) : List Token :=
  if isComment s.toList then [] else ofChars line 0 s.toList

def ofLinesFrom (line : Int) : List String → List Token
  | [] => []
  | s :: ss => ofLine line s ++ ofLinesFrom (line + 1) ss

def ofLines (ss : List String) : List Token :=
  ofLinesFrom 1 ss

def ofText (s : String) : List Token :=
  ofLines (Text.lines s)

end Token

end ScenarioScript
