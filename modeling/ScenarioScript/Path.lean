namespace ScenarioScript

structure Path where
  root : String
  parts : List String
  deriving DecidableEq, Repr

namespace Path

def pieces : List Char → List (List Char)
  | [] => [[]]
  | '/' :: cs => [] :: pieces cs
  | c :: cs => match pieces cs with
    | [] => [[c]]
    | p :: ps => (c :: p) :: ps

/-- Two slashes in front are kept, fewer or more are one root. -/
def rootOf : List Char → String
  | '/' :: '/' :: '/' :: _ => "/"
  | '/' :: '/' :: _ => "//"
  | '/' :: _ => "/"
  | _ => ""

def ofText (s : String) : Path :=
  ⟨rootOf s.toList,
    ((pieces s.toList).map String.ofList).filter fun p => p ≠ "" && p ≠ "."⟩

def named? (s : String) : Option Path :=
  if s.isEmpty then none else some (ofText s)

def text (p : Path) : String :=
  if p.root = "" && p.parts.isEmpty then "." else p.root ++ "/".intercalate p.parts

def name (p : Path) : String :=
  p.parts.getLast?.getD ""

def parent (p : Path) : Path :=
  ⟨p.root, p.parts.dropLast⟩

def isAbsolute (p : Path) : Bool :=
  p.root ≠ ""

def fromLastDot (cs : List Char) : Option (List Char) :=
  match cs.reverse.span (· ≠ '.') with
  | (_, []) => none
  | (tail, _ :: _) => some ('.' :: tail.reverse)

def suffix (p : Path) : String :=
  match p.name.toList with
  | [] => ""
  | _ :: cs => match fromLastDot cs with
    | some (d :: c :: tail) => String.ofList (d :: c :: tail)
    | _ => ""

end Path

end ScenarioScript
