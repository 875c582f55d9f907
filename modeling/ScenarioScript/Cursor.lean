import ScenarioScript.Diagnostic
import ScenarioScript.Token

namespace ScenarioScript

structure Cursor where
  pending : List Token
  line : Int
  column : Nat
  faults : List Fault
  cautions : List Caution
  deriving DecidableEq, Repr

namespace Cursor

def ofTokens (ts : List Token) : Cursor :=
  ⟨ts, 0, 0, [], []⟩

def hasNext (c : Cursor) : Bool :=
  !c.pending.isEmpty

def peek? (c : Cursor) : Option Token :=
  c.pending.head?

def next? (c : Cursor) : Option (Token × Cursor) :=
  match c.pending with
  | [] => none
  | t :: ts => some (t, { c with pending := ts, line := t.line, column := t.column })

def drain (c : Cursor) : List Token × Cursor :=
  match c.pending.getLast? with
  | none => ([], c)
  | some t => (c.pending, { c with pending := [], line := t.line, column := t.column })

def addFault (c : Cursor) (cause : Fault.Cause) (anchor : Option Token) : Cursor :=
  let fault := match anchor with
    | some t => ⟨t.line, t.column, cause⟩
    | none => ⟨c.line, c.column, cause⟩
  { c with faults := c.faults ++ [fault] }

def addCaution (c : Cursor) (cause : Caution.Cause) (anchor : Option Token) : Cursor :=
  let line := match anchor with
    | some t => t.line
    | none => c.line
  { c with cautions := c.cautions ++ [⟨line, cause⟩] }

end Cursor

end ScenarioScript
