import ScenarioScript.Decimal
import ScenarioScript.Text.Quoted

namespace ScenarioScript.Utf8

inductive Reason
  | badStart
  | badContinuation
  | endOfData
  deriving DecidableEq, Repr

structure Fault where
  lead : UInt8
  start : Nat
  count : Nat
  reason : Reason
  deriving DecidableEq, Repr

def Reason.text : Reason → String
  | badStart => "invalid start byte"
  | badContinuation => "invalid continuation byte"
  | endOfData => "unexpected end of data"

def Fault.message (f : Fault) : String :=
  "'utf-8' codec can't decode " ++
    (if f.count = 1 then
      "byte 0x" ++ String.ofList (Text.hexDigits 2 f.lead.toNat) ++ " in position " ++
        Decimal.text f.start
    else
      "bytes in position " ++ Decimal.text f.start ++ "-" ++
        Decimal.text (f.start + f.count - 1)) ++
    ": " ++ f.reason.text

/-- A character of which `taken` octets are read and `owed` more are to come, the next one between
`low` and `high`. -/
structure Pending where
  lead : UInt8
  taken : Nat
  owed : Nat
  low : Nat
  high : Nat
  code : Nat
  deriving DecidableEq, Repr

def begin? (b : UInt8) : Option Pending :=
  let n := b.toNat
  if 0xC2 ≤ n && n ≤ 0xDF then some ⟨b, 1, 1, 0x80, 0xBF, n - 0xC0⟩
  else if n = 0xE0 then some ⟨b, 1, 2, 0xA0, 0xBF, 0⟩
  else if n = 0xED then some ⟨b, 1, 2, 0x80, 0x9F, 13⟩
  else if 0xE1 ≤ n && n ≤ 0xEF then some ⟨b, 1, 2, 0x80, 0xBF, n - 0xE0⟩
  else if n = 0xF0 then some ⟨b, 1, 3, 0x90, 0xBF, 0⟩
  else if n = 0xF4 then some ⟨b, 1, 3, 0x80, 0x8F, 4⟩
  else if 0xF1 ≤ n && n ≤ 0xF3 then some ⟨b, 1, 3, 0x80, 0xBF, n - 0xF0⟩
  else none

def charsFrom (pos : Nat) : Option Pending → List UInt8 → Except Fault (List Char)
  | none, [] => .ok []
  | some p, [] => .error ⟨p.lead, pos - p.taken, p.taken, .endOfData⟩
  | none, b :: bs =>
    if b < 0x80 then do
      return Char.ofNat b.toNat :: (← charsFrom (pos + 1) none bs)
    else match begin? b with
      | some p => charsFrom (pos + 1) (some p) bs
      | none => .error ⟨b, pos, 1, .badStart⟩
  | some p, b :: bs =>
    if p.low ≤ b.toNat && b.toNat ≤ p.high then
      let code := 64 * p.code + (b.toNat - 0x80)
      if p.owed = 1 then do
        return Char.ofNat code :: (← charsFrom (pos + 1) none bs)
      else charsFrom (pos + 1) (some ⟨p.lead, p.taken + 1, p.owed - 1, 0x80, 0xBF, code⟩) bs
    else .error ⟨p.lead, pos - p.taken, p.taken, .badContinuation⟩

def chars (bs : List UInt8) : Except Fault (List Char) :=
  charsFrom 0 none bs

def part (bs : List UInt8) : Except Fault (List Char × List UInt8) :=
  match chars bs with
  | .ok cs => .ok (cs, [])
  | .error f =>
    if f.reason = .endOfData then (chars (bs.take f.start)).map (·, bs.drop f.start)
    else .error f

end ScenarioScript.Utf8
