import ScenarioScript.Yaml.Source
import ScenarioScript.Yaml.Symbol

/-! The symbols of a whole YAML text. Reading keeps the columns of the open blocks and, for every
bracket level, where a key may have started. A fault does not take back the symbols in front of it,
but for those that may still turn out to belong to a key. -/

namespace ScenarioScript.Yaml

/-- Where a key may have started: how many symbols stand before it, and whether it must be one. -/
structure Spot where
  symbols : Nat
  required : Bool
  place : Place
  deriving DecidableEq, Repr

/-- How far a text is read. The innermost block is the first of `indents`, the spots of the outer
bracket levels are in `outer`, and the last symbol is the first of `symbols`. -/
structure Progress where
  rest : List Char
  place : Place
  indents : List Nat
  spot : Option Spot
  outer : List (Option Spot)
  keyAllowed : Bool
  symbols : List Symbol
  deriving DecidableEq, Repr

namespace Progress

def start (cs : List Char) : Progress :=
  ⟨cs, ⟨0, 0, 0⟩, [], none, [], true, []⟩

def inFlow (s : Progress) : Bool :=
  !s.outer.isEmpty

def least (s : Progress) : Nat :=
  match s.indents with
  | [] => 0
  | i :: _ => i + 1

def forward (s : Progress) (n : Nat) : Progress :=
  { s with rest := s.rest.drop n, place := s.place.after (s.rest.take n) }

def upTo (s : Progress) (rest : List Char) : Progress :=
  s.forward (s.rest.length - rest.length)

def emit (s : Progress) (x : Symbol) : Progress :=
  { s with symbols := x :: s.symbols }

/-- Puts symbols in front of the symbol that a spot marks, the first of them last. -/
def insertAt (s : Progress) (spot : Spot) (xs : List Symbol) : Progress :=
  let n := s.symbols.length - spot.symbols
  { s with symbols := s.symbols.take n ++ xs ++ s.symbols.drop n }

def gap (comment : Bool) : List Char → Nat × Bool
  | [] => (0, false)
  | c :: cs =>
    if Scalar.isBreak c then ((gap false cs).1 + 1, true)
    else if comment || c = ' ' then ((gap comment cs).1 + 1, (gap comment cs).2)
    else if c = '#' then ((gap true cs).1 + 1, (gap true cs).2)
    else (0, false)

def skipGap (s : Progress) : Progress :=
  let mark := if s.place.offset = 0 && s.rest.head? = some '\ufeff' then 1 else 0
  let s := s.forward mark
  let (n, broken) := gap false s.rest
  let s := s.forward n
  { s with keyAllowed := s.keyAllowed || (broken && !s.inFlow) }

def isStale (p : Place) (spot : Spot) : Bool :=
  spot.place.line ≠ p.line || 1024 < p.offset - spot.place.offset

/-- A spot unless it is too far back for a key; one that must be a key may not be. -/
def refresh (p : Place) : Option Spot → Except Fault (Option Spot)
  | none => .ok none
  | some spot =>
    if isStale p spot then
      if spot.required then .error .malformed else .ok none
    else .ok (some spot)

def dropStale (s : Progress) : Except Fault Progress := do
  return { s with spot := ← refresh s.place s.spot, outer := ← s.outer.mapM (refresh s.place) }

def unwindFrom (column : Nat) (s : Progress) : List Nat → Progress
  | [] => { s with indents := [] }
  | i :: is =>
    if column < i then unwindFrom column (s.emit .blockEnd) is else { s with indents := i :: is }

def unwind (s : Progress) (column : Nat) : Progress :=
  if s.inFlow then s else unwindFrom column s s.indents

def unwindAll (s : Progress) : Progress :=
  if s.inFlow then s
  else { s with indents := [], symbols := s.indents.map (fun _ => .blockEnd) ++ s.symbols }

def forget (s : Progress) : Except Fault Progress :=
  if s.spot.any (·.required) then .error .malformed else .ok { s with spot := none }

def remember (s : Progress) : Except Fault Progress :=
  if s.keyAllowed then do
    let s ← s.forget
    let required := !s.inFlow && s.indents.head? = some s.place.column
    return { s with spot := some ⟨s.symbols.length, required, s.place⟩ }
  else .ok s

def openBlock (s : Progress) (column : Nat) (opening : Symbol) : Progress :=
  if s.least ≤ column then { s.emit opening with indents := column :: s.indents } else s

def blockMark (s : Progress) (opening mark : Symbol) (allowed : Bool) : Except Fault Progress := do
  if !s.inFlow && !s.keyAllowed then throw .malformed
  let s := if s.inFlow then s else s.openBlock s.place.column opening
  let s ← s.forget
  return { (s.forward 1).emit mark with keyAllowed := allowed }

/-- A colon. Behind a key it puts the key's mark in front of the key. -/
def colon (s : Progress) : Except Fault Progress :=
  match s.spot with
  | some spot =>
    let s := { s with spot := none, keyAllowed := false }
    if !s.inFlow && s.least ≤ spot.place.column then
      .ok ((({ s with indents := spot.place.column :: s.indents }.insertAt spot
        [.key, .mappingStart]).forward 1).emit .value)
    else .ok (((s.insertAt spot [.key]).forward 1).emit .value)
  | none => s.blockMark .mappingStart .value (!s.inFlow)

def openBracket (s : Progress) (mark : Symbol) : Except Fault Progress := do
  let s ← s.remember
  let s := (s.forward 1).emit mark
  return { s with spot := none, outer := s.spot :: s.outer, keyAllowed := true }

def closeBracket (s : Progress) (mark : Symbol) : Except Fault Progress := do
  let s ← s.forget
  match s.outer with
  | [] => throw .malformed
  | spot :: outer =>
    return { (s.forward 1).emit mark with spot := spot, outer := outer, keyAllowed := false }

def comma (s : Progress) : Except Fault Progress := do
  let s ← s.forget
  return { (s.forward 1).emit .comma with keyAllowed := true }

def documentMark (s : Progress) (mark : Symbol) (rest : List Char) : Except Fault Progress := do
  let s ← s.unwindAll.forget
  return { (s.upTo rest).emit mark with keyAllowed := false }

def leaf (s : Progress) (r : Option (Symbol × List Char)) : Except Fault Progress := do
  let s ← s.remember
  match r with
  | none => throw .malformed
  | some (x, rest) => return { (s.upTo rest).emit x with keyAllowed := false }

def quotedScalar (s : Progress) (behind : Fault) (double : Bool) : Except Fault Progress := do
  let (text, rest) ← Enclosed.readFrom double behind .text (s.rest.drop 1)
  s.leaf (some (.scalar text false, rest))

def plainScalar (s : Progress) : Except Fault Progress := do
  let s ← s.remember
  let r := Unquoted.read s.inFlow s.least s.place s.rest
  let s := (s.forward r.length).emit (.scalar (Point.chars r.text) true)
  return { s with keyAllowed := r.broken }

def blockScalar (s : Progress) (folded : Bool) : Except Fault Progress := do
  let s ← s.forget
  match BlockText.read folded (max 1 s.least) (s.rest.drop 1) with
  | none => throw .malformed
  | some (text, rest) =>
    return { (s.upTo rest).emit (.scalar (Point.chars text) false) with keyAllowed := true }

def startsPlain (flow : Bool) (c : Char) (cs : List Char) : Bool :=
  !(Scalar.isBlank c || "-?:,[]\x7b\x7d#&*!|>'\"%@`".toList.contains c) ||
    (!Scalar.blankAhead cs && (c = '-' || (!flow && (c = '?' || c = ':'))))

def named (symbol : String → Symbol) (cs : List Char) : Option (Symbol × List Char) :=
  (Symbol.name? cs).map fun (name, rest) => (symbol name, rest)

def readSymbol (s : Progress) (behind : Fault) (c : Char) (cs : List Char) :
    Except Fault Progress :=
  if s.place.column = 0 && c = '%' then
    match Symbol.readDirective cs with
    | .error f => .error f
    | .ok (x, rest) => s.documentMark x rest
  else if s.place.column = 0 && atSeparator (c :: cs) then
    s.documentMark (if c = '-' then .documentStart else .documentEnd) (cs.drop 2)
  else if c = '[' then s.openBracket .listOpen
  else if c = '\x7b' then s.openBracket .recordOpen
  else if c = ']' then s.closeBracket .listClose
  else if c = '\x7d' then s.closeBracket .recordClose
  else if c = ',' then s.comma
  else if c = '-' && Scalar.blankAhead cs then s.blockMark .sequenceStart .entry true
  else if c = '?' && (s.inFlow || Scalar.blankAhead cs) then
    s.blockMark .mappingStart .key (!s.inFlow)
  else if c = ':' && (s.inFlow || Scalar.blankAhead cs) then s.colon
  else if c = '*' then s.leaf (named .alias cs)
  else if c = '&' then s.leaf (named .anchor cs)
  else if c = '!' then s.leaf (Symbol.tag? cs)
  else if c = '|' && !s.inFlow then s.blockScalar false
  else if c = '>' && !s.inFlow then s.blockScalar true
  else if c = '\'' then s.quotedScalar behind false
  else if c = '"' then s.quotedScalar behind true
  else if startsPlain s.inFlow c cs then s.plainScalar
  else .error .malformed

def finish (s : Progress) : Except Fault Progress :=
  s.unwindAll.forget

def settled (s : Progress) : List Symbol :=
  let spots := (s.spot :: s.outer).filterMap (·.filter (!isStale s.place ·))
  s.symbols.reverse.take (spots.foldl (min · ·.symbols) s.symbols.length)

def step (s : Progress) (behind : Option Fault) : Except Fault Progress := do
  let s := s.skipGap
  match s.rest, behind with
  | [], some f => throw f
  | [], none => finish (← s.dropStale)
  | c :: cs, _ =>
    let s ← s.dropStale
    let s ← (s.unwind s.place.column).readSymbol (behind.getD .malformed) c cs
    match s.rest, behind with
    | [], some f => throw f
    | _, _ => return s

end Progress

structure Symbols where
  list : List Symbol
  fault : Option Fault
  deriving DecidableEq, Repr

namespace Progress

def run (s : Progress) (behind : Option Fault) : Symbols :=
  match s.step behind with
  | .error f => ⟨s.settled, some f⟩
  | .ok s' =>
    if _h : s'.rest.length < s.rest.length then run s' behind else ⟨s'.symbols.reverse, none⟩
termination_by s.rest.length

end Progress

def Source.symbols (s : Source) : Symbols :=
  (Progress.start s.chars).run s.fault

end ScenarioScript.Yaml
