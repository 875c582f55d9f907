import ScenarioScript.Yaml.Value

/-! Trees of a YAML document: its scalars, sequences and mappings, each with its tag. Collections
are filled round by round, the outermost first; the scalars in a collection are made when it is
filled. What happens in each round is kept with the tree, and so is its value, so that a tree that
has many names is looked through once. -/

namespace ScenarioScript.Yaml

/-- What may happen while values are made. A scalar with the tag of default values stands for
nothing, until it has been the key of a mapping: from then on it is a text. -/
inductive Event
  | fails (f : Fault)
  | becomesText (anchor : String)
  | mustBeText (anchor : String)
  deriving DecidableEq, Repr

namespace Event

/-- The events of a round without those that change nothing: what comes behind a failure, and what
comes again. -/
def tidy : List Event → List Event
  | [] => []
  | fails f :: _ => [fails f]
  | e :: es => e :: (tidy es).filter (· ≠ e)

def together : List (List Event) → List (List Event) → List (List Event)
  | [], rounds => rounds
  | rounds, [] => rounds
  | es :: rounds, es' :: rounds' => tidy (es ++ es') :: together rounds rounds'

def before : List Event → List (List Event) → List (List Event)
  | [], [] => []
  | es, rounds => tidy es :: rounds

def failure? (texts : List String) : List Event → Option Fault
  | [] => none
  | fails f :: _ => some f
  | becomesText a :: es => failure? (a :: texts) es
  | mustBeText a :: es => if texts.contains a then failure? texts es else some .malformed

end Event

/-- How a value is made: what happens at once and what in later rounds. -/
structure Making where
  now : List Event
  later : List (List Event)
  value : Value

namespace Making

def of (v : Value) : Making :=
  ⟨[], [], v⟩

def failing (f : Fault) : Making :=
  ⟨[.fails f], [], .null⟩

def ofResult : Except Fault Value → Making
  | .ok v => of v
  | .error f => failing f

def result (m : Making) : Except Fault Value :=
  match Event.failure? [] (m.now ++ m.later.flatten) with
  | some f => .error f
  | none => .ok m.value

end Making

def Tag.hollow? : Tag → Option Value
  | .sequence | .pairs => some (.list [])
  | .mapping => some (.record [])
  | .set => some (.set [])
  | _ => none

def Tag.misapplied (tag : Tag) : Making :=
  match tag.hollow? with
  | some v => ⟨[], [[.fails .malformed]], v⟩
  | none => .failing .malformed

/-- A mapping keeps its fields as they are written, and with those that it merges in front; the
latter are missing if something is merged that is no mapping. `text?` is the text that stands for
the mapping where a text is asked for. -/
inductive Tree
  | scalar (anchor : Option String) (tag : Tag) (text : List Point)
  | sequence (tag : Tag) (items : List Tree) (making : Making)
  | mapping (tag : Tag) (fields : List (Tree × Tree)) (merged? : Option (List (Tree × Tree)))
      (text? : Option (List Point)) (making : Making)

namespace Tree

def scalarMaking (anchor : Option String) (tag : Tag) (text : List Point) : Making :=
  match tag, anchor with
  | .plain .default, some a => ⟨[.mustBeText a], [], .text text⟩
  | .plain .default, none => .failing .malformed
  | tag, _ => if tag.hollow?.isSome then tag.misapplied else .ofResult (Value.ofPoints tag text)

def making : Tree → Making
  | scalar anchor tag text => scalarMaking anchor tag text
  | sequence _ _ m => m
  | mapping _ _ _ _ m => m

def isMerge : Tree → Bool
  | scalar _ (.plain .merge) _ => true
  | _ => false

def isDefault : Tree → Bool
  | scalar _ (.plain .default) _ => true
  | _ => false

def text? : Tree → Option (List Point)
  | scalar _ _ s => some s
  | sequence .. => none
  | mapping _ _ _ s _ => s

def defaultText? (fields : List (Tree × Tree)) : Option (List Point) :=
  (fields.find? (·.1.isDefault)).bind (·.2.text?)

def mergedFields? : Tree → Option (List (Tree × Tree))
  | mapping _ _ fs _ _ => fs
  | _ => none

/-- The fields that a node gives where it is merged; of a sequence, the first mapping counts
most. -/
def mergeOf? : Tree → Option (List (Tree × Tree))
  | scalar .. => none
  | sequence _ items _ => (items.mapM mergedFields?).map (·.reverse.flatten)
  | mapping _ _ fs _ _ => fs

def merge? (fields : List (Tree × Tree)) : Option (List (Tree × Tree)) := do
  let merged ← (fields.filter (·.1.isMerge)).mapM (mergeOf? ·.2)
  return merged.flatten ++ fields.filter (!·.1.isMerge)

def keyEvent? : Tree → Option Event
  | scalar (some a) (.plain .default) _ => some (.becomesText a)
  | _ => none

def keyMaking : Tree → Making
  | scalar _ (.plain .default) s => .of (.text s)
  | t =>
    if t.making.value.isKey then t.making
    else { t.making with now := t.making.now ++ [.fails .malformed] }

def now (ms : List Making) : List Event :=
  (ms.map (·.now)).flatten

def later (ms : List Making) : List (List Event) :=
  (ms.map (·.later)).foldr Event.together []

def fieldMakings (f : Tree × Tree) : List Making :=
  [f.1.keyMaking, f.2.making]

def fill (collection : List (Value × Value) → Value) (merged? : Option (List (Tree × Tree))) :
    Making :=
  match merged? with
  | none => ⟨[], [[.fails .malformed]], collection []⟩
  | some fields =>
    let ms := fields.flatMap fieldMakings
    ⟨[], Event.before (fields.filterMap (·.1.keyEvent?) ++ now ms) (later ms),
      collection (Value.distinct (fields.map fun f => (f.1.keyMaking.value, f.2.making.value)))⟩

def pairMakings : Tree → List Making
  | mapping _ [(k, v)] _ _ _ => [k.making, v.making]
  | _ => [.failing .malformed]

def sequenceMaking (tag : Tag) (items : List Tree) : Making :=
  match tag with
  | .sequence =>
    let ms := items.map making
    ⟨[], Event.before (now ms) (later ms), .list (ms.map (·.value))⟩
  | .pairs =>
    let ms := items.flatMap pairMakings
    ⟨[], Event.before (now ms) (later ms),
      .list (items.map fun t => .list ((pairMakings t).map (·.value)))⟩
  | tag => tag.misapplied

def mappingMaking (tag : Tag) (merged? : Option (List (Tree × Tree)))
    (text? : Option (List Point)) : Making :=
  match tag, text? with
  | .mapping, _ => fill .record merged?
  | .set, _ => fill (fun fs => .set (fs.map (·.1))) merged?
  | .plain .timestamp, some _ => .failing .timeOfRecord
  | tag, some s => if tag.hollow?.isSome then tag.misapplied else .ofResult (Value.ofPoints tag s)
  | tag, none => tag.misapplied

def ofItems (tag : Tag) (items : List Tree) : Tree :=
  sequence tag items (sequenceMaking tag items)

def ofFields (tag : Tag) (fields : List (Tree × Tree)) : Tree :=
  let merged? := merge? fields
  let text? := defaultText? fields
  mapping tag fields merged? text? (mappingMaking tag merged? text?)

def absent : Tree :=
  scalar none (.plain .null) []

def value (t : Tree) : Except Fault Value :=
  t.making.result

end Tree

end ScenarioScript.Yaml
