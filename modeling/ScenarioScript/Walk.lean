import ScenarioScript.Cursor
import ScenarioScript.Spelling

/-! Walks: computations on a cursor that break down where they ask for what is not there. The cursor
of a walk that has broken down stands where it stood then. -/

namespace ScenarioScript

/-- What ends a walk early. A loop that makes no headway would never end, and is stuck. -/
inductive Breakdown
  | notText (value : NonText)
  | endOfTokens
  | outOfRange (family : String)
  | noMember (name : String)
  | noEntry (key : Option Keyword)
  | misnomer (m : Misnomer)
  | noInteger (text : String)
  | stuck
  deriving Repr

def Keyword.constant (k : Keyword) : String :=
  String.ofList <| k.spelling.toList.flatMap fun c =>
    if c.isUpper then ['_', c] else [c.toUpper]

def Decimal.refusal (s : String) : String :=
  let digits := match stripPadding s.toList with
    | '-' :: cs => digits? cs
    | '+' :: cs => digits? cs
    | cs => digits? cs
  match digits with
  | none => "invalid literal for int() with base 10: " ++ (Document.text s).quoted
  | some ds =>
    "Exceeds the limit (" ++ text maxDigits ++ " digits) for integer string conversion: value has " ++
      text ds.length ++ " digits; use sys.set_int_max_str_digits() to increase the limit"

namespace Breakdown

def cause : Breakdown → Fault.Cause
  | notText value => .notText value
  | endOfTokens => .note "Unexpected end of input"
  | outOfRange family => .note (family ++ " index out of range")
  | noMember name => .note ("'NoneType' object has no attribute '" ++ name ++ "'")
  | noEntry none => .note "None"
  | noEntry (some k) => .note ("<Keyword." ++ k.constant ++ ": '" ++ k.spelling ++ "'>")
  | misnomer m => .note m.message
  | noInteger text => .note (Decimal.refusal text)
  | stuck => .note "Unknown parse error"

end Breakdown

abbrev Walk := ExceptT Breakdown (StateM Cursor)

namespace Walk

variable {α β σ : Type}

def on (w : Walk α) (c : Cursor) : Except Breakdown α × Cursor :=
  (ExceptT.run w).run c

inductive Turn (σ β : Type)
  | again (s : σ)
  | done (b : β)

def loopFrom (size : σ → Cursor → Nat) (turn : σ → Walk (Turn σ β)) (s : σ) (c : Cursor) :
    Except Breakdown β × Cursor :=
  match (turn s).on c with
  | (.error b, c') => (.error b, c')
  | (.ok (.done b), c') => (.ok b, c')
  | (.ok (.again s'), c') =>
    if size s' c' < size s c then loopFrom size turn s' c' else (.error .stuck, c')
termination_by size s c

/-- Takes turns until one is done, as long as each brings the end nearer. -/
def loop (size : σ → Cursor → Nat) (turn : σ → Walk (Turn σ β)) (s : σ) : Walk β :=
  ExceptT.mk (StateT.mk fun c => loopFrom size turn s c)

def along (l : List α) (turn : σ × Nat → Walk (Turn (σ × Nat) β)) (s : σ) (start : Nat) : Walk β :=
  loop (fun (_, i) _ => l.length - i) turn (s, start)

def item (family : String) (l : List α) (i : Nat) : Walk α :=
  match l[i]? with
  | some a => pure a
  | none => throw (.outOfRange family)

def charAt (cs : List Char) (i : Nat) : Walk Char :=
  item "string" cs i

def tokenAt (ts : List Token) (i : Nat) : Walk Token :=
  item "list" ts i

def having (name : String) : Option α → Walk α
  | some a => pure a
  | none => throw (.noMember name)

def entry (table : Keyword → Option α) (k : Option Keyword) : Walk α :=
  match k.bind table with
  | some a => pure a
  | none => throw (.noEntry k)

def named (set : String → Except Misnomer α) (s : String) : Walk α :=
  match set s with
  | .ok a => pure a
  | .error m => throw (.misnomer m)

def integer (s : String) : Walk Int :=
  match Decimal.read? s with
  | some n => pure n
  | none => throw (.noInteger s)

def toInt? (s : String) : Walk (Option Int) :=
  tryCatch (some <$> integer s) fun
    | .noInteger _ => pure none
    | .misnomer _ => pure none
    | b => throw b

def hasNext : Walk Bool :=
  return (← get).hasNext

def peek? : Walk (Option Token) :=
  return (← get).peek?

def next : Walk Token := do
  match (← get).next? with
  | some (t, c) =>
    set c
    return t
  | none => throw .endOfTokens

def fault (cause : Fault.Cause) (anchor : Token) : Walk Unit :=
  modify (·.addFault cause (some anchor))

def caution (cause : Caution.Cause) (anchor : Token) : Walk Unit :=
  modify (·.addCaution cause (some anchor))

end Walk

end ScenarioScript
