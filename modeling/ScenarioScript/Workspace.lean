import ScenarioScript.Path

namespace ScenarioScript

inductive Node
  | file (octets : List UInt8)
  | directory
  deriving DecidableEq, Repr

abbrev Location := List String

/-- Directories need no entry of their own where something stands below them. -/
structure Workspace where
  nodes : List (Location × Node)
  current : Location
  deriving DecidableEq, Repr

inductive Obstacle
  | isDirectory
  | exists
  | notDirectory
  | missing
  deriving DecidableEq, Repr

namespace Workspace

def node? (w : Workspace) (l : Location) : Option Node :=
  match w.nodes.lookup l with
  | some n => some n
  | none =>
    if l.isPrefixOf w.current || w.nodes.any (fun n => l.isPrefixOf n.1) then some .directory
    else none

def walk (w : Workspace) (l : Location) : List String → Option Location
  | [] => some l
  | p :: ps =>
    if w.node? l = some .directory then
      if p = ".." then walk w l.dropLast ps else walk w (l ++ [p]) ps
    else none

def origin (w : Workspace) (p : Path) : Location :=
  if p.isAbsolute then [] else w.current

def lookup (w : Workspace) (p : Path) : Option Node :=
  if p.text.toList.contains '\x00' then none
  else (w.walk (w.origin p) p.parts).bind w.node?

def put (w : Workspace) (l : Location) (n : Node) : Workspace :=
  { w with nodes := (l, n) :: w.nodes.filter (·.1 ≠ l) }

/-- Makes the directories that are missing on the way. Where `made` says that one was, a file in the
way is found when its own turn comes, not when something below it is asked for. -/
def makeWay (w : Workspace) (l : Location) (made : Bool) : List String → Except Obstacle Workspace
  | [] => .ok w
  | p :: ps =>
    if p = ".." then makeWay w l.dropLast made ps
    else match w.node? (l ++ [p]) with
      | some .directory => makeWay w (l ++ [p]) made ps
      | some (.file _) => .error (if made || ps.isEmpty then .exists else .notDirectory)
      | none => makeWay (w.put (l ++ [p]) .directory) (l ++ [p]) true ps

def makeDirectory (w : Workspace) (p : Path) : Except Obstacle Workspace :=
  w.makeWay (w.origin p) false p.parts

def write (w : Workspace) (p : Path) (octets : List UInt8) : Except Obstacle Workspace :=
  match w.walk (w.origin p) p.parts with
  | none => .error .missing
  | some l =>
    if w.node? l = some .directory then .error .isDirectory else .ok (w.put l (.file octets))

def pathTo (w : Workspace) (l : Location) : String :=
  "/".intercalate (l.drop w.current.length)

def filesSince (w before : Workspace) : List (Location × List UInt8) :=
  w.nodes.filterMap fun n => match n.2 with
    | .directory => none
    | .file octets => if (before.nodes.lookup n.1).isSome then none else some (n.1, octets)

end Workspace

end ScenarioScript
