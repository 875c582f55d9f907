import ScenarioScript.Text.Lines
import ScenarioScript.Yaml.Place

/-! Sources of YAML: the characters that can be read, up to a fault. A text that is at hand is
looked through at once; octets are decoded piece by piece and looked through portion by portion, so
that a fault far behind is not met before the characters in front of it are read. -/

namespace ScenarioScript.Yaml

def isPermitted (c : Char) : Bool :=
  let n := c.toNat
  n = 9 || n = 10 || n = 13 || (0x20 ≤ n && n ≤ 0x7E) || n = 0x85 || (0xA0 ≤ n && n ≤ 0xD7FF) ||
    (0xE000 ≤ n && n ≤ 0xFFFD) || 0x10000 ≤ n

structure Source where
  chars : List Char
  fault : Option Fault
  deriving DecidableEq, Repr

/-- Octets that are decoded piece by piece. `pending` begins a character that is not complete,
`ready` is decoded and not yet taken, `carriage` is a carriage return at the end that a line feed may
follow, and the last piece gave `count` characters of `size` octets. -/
structure Stream where
  octets : List UInt8
  pending : List UInt8
  ready : List Char
  carriage : Bool
  size : Nat
  count : Nat

namespace Stream

def ofOctets (octets : List UInt8) : Stream :=
  ⟨octets, [], [], false, 0, 0⟩

def leastPiece : Nat := 8192

def pieceSize (s : Stream) (owed : Nat) : Nat :=
  max leastPiece (s.size * owed / s.count)

def carried (carriage : Bool) (cs : List Char) : List Char :=
  if carriage then '\r' :: cs else cs

def fill (s : Stream) (owed : Nat) : Except Utf8.Fault Stream := do
  let piece := s.octets.take (s.pieceSize owed)
  let (decoded, pending) ← Utf8.part (s.pending ++ piece)
  let cs := if decoded.isEmpty then [] else carried s.carriage decoded
  let held := cs.getLast? = some '\r'
  let new := Text.unifyBreaks (if held then cs.dropLast else cs)
  return {
    octets := s.octets.drop (s.pieceSize owed)
    pending := pending
    ready := s.ready ++ new
    carriage := held || (decoded.isEmpty && s.carriage)
    size := piece.length
    count := new.length }

def finish (s : Stream) : Except Utf8.Fault (List Char) := do
  return s.ready ++ Text.unifyBreaks (carried s.carriage (← Utf8.chars s.pending))

theorem octets_of_fill {s t : Stream} {owed : Nat} (h : s.fill owed = .ok t) :
    t.octets = s.octets.drop (s.pieceSize owed) := by
  unfold fill at h
  cases hp : Utf8.part (s.pending ++ s.octets.take (s.pieceSize owed)) with
  | error f => simp [hp, bind, Except.bind] at h
  | ok p =>
    simp only [hp, bind, Except.bind, pure, Except.pure, Except.ok.injEq] at h
    rw [← h]

def take (owed : Nat) (s : Stream) : Except Utf8.Fault (List Char × Stream) :=
  if owed ≤ s.ready.length then
    .ok (s.ready.take owed, { s with ready := s.ready.drop owed })
  else if _hs : s.octets = [] then
    s.finish.map (·, { s with pending := [], ready := [], carriage := false })
  else match _h : s.fill (owed - s.ready.length) with
    | .error f => .error f
    | .ok t => take owed t
termination_by s.octets.length
decreasing_by
  rw [octets_of_fill _h, List.length_drop]
  have h1 : 0 < s.octets.length := List.length_pos_iff.2 _hs
  have h2 : 8192 ≤ s.pieceSize (owed - s.ready.length) := Nat.le_max_left _ _
  omega

end Stream

namespace Source

def portionSize : Nat := 4096

def ofPortion (cs : List Char) (further : Source) : Source :=
  if cs.all isPermitted then ⟨cs ++ further.chars, further.fault⟩ else ⟨[], some .malformed⟩

/-- Portions up to the first that is empty or cannot be decoded; the first argument bounds their
number. -/
def ofStream : Nat → Stream → Source
  | 0, _ => ⟨[], none⟩
  | n + 1, s =>
    match s.take portionSize with
    | .error f => ⟨[], some (.badOctets f)⟩
    | .ok ([], _) => ⟨[], none⟩
    | .ok (cs, s) => ofPortion cs (ofStream n s)

/-- The first two portions are looked through together. -/
def opening (octets : List UInt8) : Except Utf8.Fault (List Char × Stream) := do
  let (first, s) ← (Stream.ofOctets octets).take portionSize
  let (second, s) ← s.take portionSize
  return (first ++ second, s)

def ofOctets (octets : List UInt8) : Source :=
  match opening octets with
  | .error f => ⟨[], some (.badOctets f)⟩
  | .ok (cs, s) => ofPortion cs (ofStream octets.length s)

def ofText (cs : List Char) : Source :=
  ofPortion cs ⟨[], none⟩

end Source

end ScenarioScript.Yaml
