namespace ScenarioScript

inductive Document
  | null
  | bool (b : Bool)
  | int (n : Int)
  | text (s : String)
  | list (items : List Document)
  | record (fields : List (String × Document))
  deriving Repr, BEq

namespace Document

def ofOption {α : Type} (f : α → Document) : Option α → Document
  | some a => f a
  | none => null

def texts (ss : List String) : Document :=
  list (ss.map text)

end Document

end ScenarioScript
