import ScenarioScript.Document.Model

/-! Parts of sketches. A part is of whatever kind its maker chose: a number may stand where a text
belongs, and an assertion where an action does. -/

namespace ScenarioScript

inductive Part
  | plain (d : Document)
  | list (items : List Part)
  | set (members : List Part)
  | modifiers (m : Modifiers)
  | variant (kind : String) (fields : List (String × Part))
  deriving Repr, BEq

inductive Misfit
  | misnomer (m : Misnomer)
  | unknown (key : Document)
  | notIterable (typeName : String)
  | unhashable (typeName : String)
  | incomparable (sign left right : String)
  | noMember (typeName member : String)
  deriving Repr, BEq

namespace Misfit

def message : Misfit → String
  | misnomer m => m.message
  | unknown key => key.quoted
  | notIterable t => "'" ++ t ++ "' object is not iterable"
  | unhashable t => "unhashable type: '" ++ t ++ "'"
  | incomparable sign left right =>
    "'" ++ sign ++ "' not supported between instances of '" ++ left ++ "' and '" ++ right ++ "'"
  | noMember t member => "'" ++ t ++ "' object has no attribute '" ++ member ++ "'"

end Misfit

namespace Part

def null : Part :=
  plain .null

def typeName : Part → String
  | plain d => d.typeName
  | list _ => "list"
  | set _ => "set"
  | modifiers _ => "frozenset"
  | variant kind _ => kind

def isTruthy : Part → Bool
  | plain d => d.isTruthy
  | list items => !items.isEmpty
  | set members => !members.isEmpty
  | modifiers m => m ≠ .empty
  | variant .. => true

mutual

/-- Truth values are equal to the numbers that they are. -/
def same : Part → Part → Bool
  | plain d, plain e =>
    match d.number?, e.number? with
    | some m, some n => m = n
    | _, _ => d == e
  | list xs, list ys => allSame xs ys
  | variant k xs, variant k' ys => k = k' && fieldsSame xs ys
  | p, q => p == q

def allSame : List Part → List Part → Bool
  | [], [] => true
  | x :: xs, y :: ys => same x y && allSame xs ys
  | _, _ => false

def fieldsSame : List (String × Part) → List (String × Part) → Bool
  | [], [] => true
  | (_, x) :: xs, (_, y) :: ys => same x y && fieldsSame xs ys
  | _, _ => false

end

mutual

def unhashable? : Part → Option String
  | plain (.list _) | list _ => some "list"
  | plain (.record _) => some "dict"
  | set _ => some "set"
  | variant _ fields => unhashableField? fields
  | _ => none

def unhashableField? : List (String × Part) → Option String
  | [] => none
  | (_, p) :: fs => (unhashable? p).or (unhashableField? fs)

end

def distinct : List Part → List Part
  | [] => []
  | p :: ps => p :: (distinct ps).filter (!same p ·)

def setOf (members : List Part) : Except Misfit Part :=
  match members.findSome? unhashable? with
  | some t => .error (.unhashable t)
  | none => .ok (set (distinct members))

end Part

namespace Document

def precedes? : Document → Document → Option Bool
  | text s, text t => some (s < t)
  | d, e => do return decide ((← d.number?) < (← e.number?))

def insert (d : Document) : List Document → Except Misfit (List Document)
  | [] => .ok [d]
  | e :: es =>
    match precedes? d e with
    | none => .error (.incomparable "<" e.typeName d.typeName)
    | some true => .ok (d :: e :: es)
    | some false => return e :: (← insert d es)

def sorted (ds : List Document) : Except Misfit (List Document) :=
  ds.foldrM insert []

end Document

namespace Part

mutual

def document : Part → Except Misfit Document
  | plain d => .ok d
  | list items => return .list (← documents items)
  | set members => do return .list (← Document.sorted (← documents members))
  | modifiers m => .ok m.document
  | variant kind fields => return .variant kind (← fieldDocuments fields)

def documents : List Part → Except Misfit (List Document)
  | [] => .ok []
  | p :: ps => return (← document p) :: (← documents ps)

def fieldDocuments : List (String × Part) → Except Misfit (List (String × Document))
  | [] => .ok []
  | (k, p) :: fs => return (k, ← document p) :: (← fieldDocuments fs)

end

end Part

end ScenarioScript
