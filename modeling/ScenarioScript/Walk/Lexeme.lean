import ScenarioScript.Lexeme
import ScenarioScript.Walk

namespace ScenarioScript.Walk

def slice (cs : List Char) (start stop : Nat) : String :=
  String.ofList ((cs.take stop).drop start)

def behind? (cs : List Char) (i : Nat) : Walk (Option Char) := do
  if i + 1 < cs.length then return some (← charAt cs (i + 1))
  else return none

def runTurn (p : Char → Bool) (cs : List Char) (found : Unit × Nat) :
    Walk (Turn (Unit × Nat) Nat) := do
  let ((), i) := found
  if i < cs.length then
    if p (← charAt cs i) then return .again ((), i + 1)
    else return .done i
  else return .done i

def runEnd (p : Char → Bool) (cs : List Char) (start : Nat) : Walk Nat :=
  along cs (runTurn p cs) () start

def stringTurn (cs : List Char) (found : List Char × Nat) :
    Walk (Turn (List Char × Nat) (List Char × Nat)) := do
  let (text, i) := found
  if i < cs.length then
    let c ← charAt cs i
    if c = '"' then return .done (text, min (i + 1) cs.length)
    else if c = '\\' ∧ i + 1 < cs.length then
      return .again (text ++ [Lexeme.unescape (← charAt cs (i + 1))], i + 2)
    else return .again (text ++ [c], i + 1)
  else return .done (text, min (i + 1) cs.length)

def stringAt (cs : List Char) (start : Nat) : Walk (List Char × Nat) :=
  along cs (stringTurn cs) [] (start + 1)

def arrayTurn (cs : List Char) (found : Int × Nat) : Walk (Turn (Int × Nat) Nat) := do
  let (depth, i) := found
  if i < cs.length ∧ 0 < depth then
    let c ← charAt cs i
    if c = '[' then return .again (depth + 1, i + 1)
    else if c = ']' then return .again (depth - 1, i + 1)
    else return .again (depth, i + 1)
  else return .done i

def arrayEnd (cs : List Char) (start : Nat) : Walk Nat :=
  along cs (arrayTurn cs) 1 (start + 1)

def numberTurn (cs : List Char) (found : Bool × Nat) : Walk (Turn (Bool × Nat) Nat) := do
  let (pointed, i) := found
  if i < cs.length then
    let c ← charAt cs i
    if c.isDigit then return .again (pointed, i + 1)
    else if c = '.' ∧ pointed = false then return .again (true, i + 1)
    else return .done i
  else return .done i

def numberEnd (cs : List Char) (start : Nat) : Walk Nat := do
  along cs (numberTurn cs) false (if (← charAt cs start) = '-' then start + 1 else start)

def lexemeAt (line : Int) (cs : List Char) (i : Nat) : Walk (Option Token × Nat) := do
  let c ← charAt cs i
  let next ← behind? cs i
  let token (kind : TokenKind) (text : String) : Option Token := some ⟨kind, text, line, i⟩
  if Text.isBlank c then return (none, i + 1)
  else if c = '"' then
    let (text, stop) ← stringAt cs i
    return (token .string (String.ofList text), stop)
  else if c = '#' ∧ next.any Char.isDigit then
    let stop ← runEnd Char.isDigit cs (i + 1)
    return (token .targetId (slice cs (i + 1) stop), stop)
  else if c = '[' then
    let stop ← arrayEnd cs i
    return (token .array (slice cs i stop), stop)
  else if c = '{' then return (token .braceOpen (String.singleton c), i + 1)
  else if c = '}' then return (token .braceClose (String.singleton c), i + 1)
  else if c.isDigit ∨ (c = '-' ∧ next.any Char.isDigit) then
    let stop ← numberEnd cs i
    return (token .number (slice cs i stop), stop)
  else if Text.isLetter c ∨ c = '_' then
    let stop ← runEnd Lexeme.isWordChar cs i
    return (token .keyword (slice cs i stop), stop)
  else return (none, i + 1)

def lineTurn (line : Int) (cs : List Char) (found : List Token × Nat) :
    Walk (Turn (List Token × Nat) (List Token)) := do
  let (ts, i) := found
  if i < cs.length then
    let (t, stop) ← lexemeAt line cs i
    return .again (ts ++ t.toList, stop)
  else return .done ts

def lineTokens (line : Int) (s : String) : Walk (List Token) := do
  if Token.isComment s.toList then return []
  else along s.toList (lineTurn line s.toList) [] 0

def linesTurn (found : List Token × Int) (s : String) : Walk (List Token × Int) := do
  let (ts, line) := found
  return (ts ++ (← lineTokens line s), line + 1)

def tokens (lines : List String) : Walk (List Token) := do
  let (ts, _) ← lines.foldlM linesTurn ([], 1)
  return ts

end ScenarioScript.Walk
