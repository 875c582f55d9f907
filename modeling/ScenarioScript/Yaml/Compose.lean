import ScenarioScript.Yaml.Symbols
import ScenarioScript.Yaml.Tree

/-! Trees from symbols. Symbols are looked at one by one, so that of two faults the one is met that
stands in front. -/

namespace ScenarioScript.Yaml.Compose

structure Properties where
  anchor : Option String
  tag : Option String
  deriving DecidableEq, Repr

def Properties.any (p : Properties) : Bool :=
  p.anchor.isSome || p.tag.isSome

def Properties.isOpen (p : Properties) : Bool :=
  p.tag.isNone || p.tag = some "!"

def Properties.scalar (p : Properties) (text : List Point) (plain : Bool) : Tree :=
  let cs := Point.shapes text
  match p.tag with
  | none => .scalar p.anchor (.plain (if plain then plainKind cs else .text)) text
  | some tag =>
    if tag = "!" then .scalar p.anchor (.plain (plainKind (withoutLastFeed cs))) text
    else .scalar p.anchor (.ofUri tag) text

def Properties.collection (p : Properties) (form : Tag) : Tag :=
  match p.tag with
  | none => form
  | some tag => if tag = "!" then form else .ofUri tag

structure Feed where
  symbols : Symbols
  anchors : List (String × Tree)

namespace Feed

def peek (f : Feed) : Except Fault (Option Symbol) :=
  match f.symbols.list, f.symbols.fault with
  | x :: _, _ => .ok (some x)
  | [], some fault => .error fault
  | [], none => .ok none

def skip (f : Feed) : Feed :=
  { f with symbols := { f.symbols with list := f.symbols.list.tail } }

def meets (f : Feed) (xs : List Symbol) : Except Fault Bool := do
  return (← f.peek).any xs.contains

def name (f : Feed) (p : Properties) (t : Tree) : Feed :=
  match p.anchor with
  | none => f
  | some a => { f with anchors := (a, t) :: f.anchors }

def checkName (f : Feed) (p : Properties) : Except Fault Unit :=
  match p.anchor with
  | none => .ok ()
  | some a => if (f.anchors.lookup a).isSome then .error .malformed else .ok ()

end Feed

abbrev Handles := List (String × String)

def resolveTag (handles : Handles) (handle : Option String) (suffix : String) :
    Except Fault String :=
  match handle with
  | none => .ok suffix
  | some h => match handles.lookup h with
    | some leading => .ok (leading ++ suffix)
    | none => .error .malformed

def properties (handles : Handles) (f : Feed) : Except Fault (Properties × Feed) := do
  match ← f.peek with
  | some (.anchor a) =>
    let f := f.skip
    match ← f.peek with
    | some (.tag h s) => return (⟨some a, some (← resolveTag handles h s)⟩, f.skip)
    | _ => return (⟨some a, none⟩, f)
  | some (.tag h s) =>
    let f := f.skip
    match ← f.peek with
    | some (.anchor a) => return (⟨some a, some (← resolveTag handles h s)⟩, f.skip)
    | _ => return (⟨none, some (← resolveTag handles h s)⟩, f)
  | _ => return (⟨none, none⟩, f)

/-- Which nodes may stand at a place. A sequence whose dashes stand at the column of the mapping
around it may only be a key or a value. -/
inductive Context
  | block | inMapping | flow
  deriving DecidableEq, Repr

mutual

/-- A node; the first argument bounds the depth of the reading. -/
def node (n : Nat) (handles : Handles) (ctx : Context) (f : Feed) : Except Fault (Tree × Feed) :=
  match n with
  | 0 => .error .malformed
  | n + 1 => do
    match ← f.peek with
    | some (.alias a) =>
      match f.anchors.lookup a with
      | some t => return (t, f.skip)
      | none => throw .malformed
    | _ =>
      let (p, f) ← properties handles f
      content n handles ctx p f

def content (n : Nat) (handles : Handles) (ctx : Context) (p : Properties) (f : Feed) :
    Except Fault (Tree × Feed) :=
  match n with
  | 0 => .error .malformed
  | n + 1 =>
    let scalar (text : List Point) (plain : Bool) (f : Feed) : Except Fault (Tree × Feed) :=
      let t := p.scalar text plain
      .ok (t, f.name p t)
    let sequenceOf (items : Feed → Except Fault (List Tree × Feed)) (f : Feed) :
        Except Fault (Tree × Feed) := do
      let tag := p.collection .sequence
      let (ts, f) ← items (f.name p (.ofItems tag []))
      let t := Tree.ofItems tag ts
      return (t, f.name p t)
    let mappingOf (fields : Feed → Except Fault (List (Tree × Tree) × Feed)) (f : Feed) :
        Except Fault (Tree × Feed) := do
      let tag := p.collection .mapping
      let (fs, f) ← fields (f.name p (.ofFields tag []))
      let t := Tree.ofFields tag fs
      return (t, f.name p t)
    do
      let next ← f.peek
      f.checkName p
      match next, ctx with
      | some (.scalar text plain), _ => scalar text plain f.skip
      | some .listOpen, _ => sequenceOf (flowItems n handles true) f.skip
      | some .recordOpen, _ => mappingOf (flowFields n handles true) f.skip
      | some .sequenceStart, .block => sequenceOf (blockItems n handles) f.skip
      | some .sequenceStart, .inMapping => sequenceOf (blockItems n handles) f.skip
      | some .mappingStart, .block => mappingOf (blockFields n handles) f.skip
      | some .mappingStart, .inMapping => mappingOf (blockFields n handles) f.skip
      | some .entry, .inMapping => sequenceOf (looseItems n handles) f
      | _, _ => if p.any then scalar [] p.isOpen f else throw .malformed

def nodeUnless (n : Nat) (handles : Handles) (ctx : Context) (xs : List Symbol) (f : Feed) :
    Except Fault (Tree × Feed) :=
  match n with
  | 0 => .error .malformed
  | n + 1 => do if ← f.meets xs then return (.absent, f) else node n handles ctx f

def blockItems (n : Nat) (handles : Handles) (f : Feed) : Except Fault (List Tree × Feed) :=
  match n with
  | 0 => .error .malformed
  | n + 1 => do
    match ← f.peek with
    | some .blockEnd => return ([], f.skip)
    | some .entry =>
      let (t, f) ← nodeUnless n handles .block [.entry, .blockEnd] f.skip
      let (ts, f) ← blockItems n handles f
      return (t :: ts, f)
    | _ => throw .malformed

def looseItems (n : Nat) (handles : Handles) (f : Feed) : Except Fault (List Tree × Feed) :=
  match n with
  | 0 => .error .malformed
  | n + 1 => do
    match ← f.peek with
    | some .entry =>
      let (t, f) ← nodeUnless n handles .block [.entry, .key, .value, .blockEnd] f.skip
      let (ts, f) ← looseItems n handles f
      return (t :: ts, f)
    | _ => return ([], f)

def valueUnless (n : Nat) (handles : Handles) (ctx : Context) (xs : List Symbol) (f : Feed) :
    Except Fault (Tree × Feed) :=
  match n with
  | 0 => .error .malformed
  | n + 1 => do
    if ← f.meets [.value] then nodeUnless n handles ctx xs f.skip else return (.absent, f)

def blockFields (n : Nat) (handles : Handles) (f : Feed) :
    Except Fault (List (Tree × Tree) × Feed) :=
  match n with
  | 0 => .error .malformed
  | n + 1 => do
    match ← f.peek with
    | some .blockEnd => return ([], f.skip)
    | some .key =>
      let (k, f) ← nodeUnless n handles .inMapping [.key, .value, .blockEnd] f.skip
      let (v, f) ← valueUnless n handles .inMapping [.key, .value, .blockEnd] f
      let (fs, f) ← blockFields n handles f
      return ((k, v) :: fs, f)
    | _ => throw .malformed

/-- The items up to a closing bracket. An item with a key is a mapping of one field. -/
def flowItems (n : Nat) (handles : Handles) (first : Bool) (f : Feed) :
    Except Fault (List Tree × Feed) :=
  match n with
  | 0 => .error .malformed
  | n + 1 => do
    if ← f.meets [.listClose] then return ([], f.skip)
    else if !first && !(← f.meets [.comma]) then throw .malformed
    else
      let f := if first then f else f.skip
      match ← f.peek with
      | some .listClose => return ([], f.skip)
      | some .key =>
        let (k, f) ← nodeUnless n handles .flow [.value, .comma, .listClose] f.skip
        let (v, f) ← valueUnless n handles .flow [.comma, .listClose] f
        let (ts, f) ← flowItems n handles false f
        return (.ofFields .mapping [(k, v)] :: ts, f)
      | _ =>
        let (t, f) ← node n handles .flow f
        let (ts, f) ← flowItems n handles false f
        return (t :: ts, f)

/-- The fields up to a closing brace. A node without the mark of a key is a key without a value. -/
def flowFields (n : Nat) (handles : Handles) (first : Bool) (f : Feed) :
    Except Fault (List (Tree × Tree) × Feed) :=
  match n with
  | 0 => .error .malformed
  | n + 1 => do
    if ← f.meets [.recordClose] then return ([], f.skip)
    else if !first && !(← f.meets [.comma]) then throw .malformed
    else
      let f := if first then f else f.skip
      match ← f.peek with
      | some .recordClose => return ([], f.skip)
      | some .key =>
        let (k, f) ← nodeUnless n handles .flow [.value, .comma, .recordClose] f.skip
        let (v, f) ← valueUnless n handles .flow [.comma, .recordClose] f
        let (fs, f) ← flowFields n handles false f
        return ((k, v) :: fs, f)
      | _ =>
        let (k, f) ← node n handles .flow f
        let (fs, f) ← flowFields n handles false f
        return ((k, .absent) :: fs, f)

end

/-- Directives in front of a document: the version at most once and of the first major number, a
handle at most once. -/
def directives (versioned : Bool) (handles : Handles) (fault : Option Fault) :
    List Symbol → Except Fault (Handles × Symbols)
  | .directive (.version major) :: rest =>
    if versioned || major ≠ 1 then .error .malformed else directives true handles fault rest
  | .directive (.tag handle leading) :: rest =>
    if (handles.lookup handle).isSome then .error .malformed
    else directives versioned ((handle, leading) :: handles) fault rest
  | .directive .other :: rest => directives versioned handles fault rest
  | rest => .ok (handles, ⟨rest, fault⟩)

def defaultHandles : Handles :=
  [("!", "!"), ("!!", Tag.core)]

def root (handles : Handles) (explicit : Bool) (f : Feed) : Except Fault (Tree × Feed) := do
  let absent := match ← f.peek with
    | none | some (.directive _) | some .documentStart | some .documentEnd => true
    | _ => false
  if explicit && absent then return (.absent, f)
  else node (4 * f.symbols.list.length + 4) handles .block f

def explicitDocument (symbols : Symbols) : Except Fault (Tree × Feed) := do
  let (handles, rest) ← directives false [] symbols.fault symbols.list
  let f : Feed := ⟨rest, []⟩
  if ← f.meets [.documentStart] then root (handles ++ defaultHandles) true f.skip
  else throw .malformed

def ends (fault : Option Fault) : List Symbol → Except Fault Unit
  | .documentEnd :: rest => ends fault rest
  | rest => do
    let (_, behind) ← directives false [] fault rest
    let next ← Feed.peek ⟨behind, []⟩
    if next.isSome || !rest.isEmpty then throw .malformed

def document (symbols : Symbols) : Except Fault (Option Tree) := do
  let start : Feed := ⟨symbols, []⟩
  let (t, f) ← match ← start.peek with
    | none => return none
    | some (.directive _) | some .documentStart => explicitDocument symbols
    | _ => root defaultHandles false start
  ends f.symbols.fault f.symbols.list
  return some t

end ScenarioScript.Yaml.Compose

namespace ScenarioScript.Yaml

def Source.value (s : Source) : Except Fault Value := do
  match ← Compose.document s.symbols with
  | none => return .null
  | some t => t.value

end ScenarioScript.Yaml
