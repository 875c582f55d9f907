import Mathlib.Algebra.Group.Int.Defs
import Mathlib.Data.List.Basic
import ScenarioScript.Diagnostic
import ScenarioScript.Lexeme

namespace ScenarioScript

/-- Other places for tokens: where each line goes, and where each column of it. -/
structure Relocation where
  line : ℤ → ℤ
  column : ℤ → ℕ → ℕ

namespace Relocation

def shift (k : ℤ) : Relocation :=
  ⟨(· + k), fun _ column => column⟩

def forget : Relocation :=
  ⟨fun _ => 0, fun _ _ => 0⟩

lemma shift_injective (k : ℤ) : (shift k).line.Injective :=
  add_left_injective k

end Relocation

namespace Token

def move (r : Relocation) (t : Token) : Token :=
  { t with line := r.line t.line, column := r.column t.line t.column }

section

variable (r : Relocation) (t : Token)

@[simp] lemma kind_move : (t.move r).kind = t.kind := rfl

@[simp] lemma text_move : (t.move r).text = t.text := rfl

@[simp] lemma line_move : (t.move r).line = r.line t.line := rfl

@[simp] lemma keyword_move : (t.move r).keyword = t.keyword := rfl

@[simp] lemma is_move (k : Keyword) : (t.move r).is k = t.is k := rfl

end

open Relocation in
lemma map_shift_neg (k : ℤ) (ts : List Token) :
    (ts.map (move (shift (-k)))).map (move (shift k)) = ts := by
  have hback : move (shift k) ∘ move (shift (-k)) = id := by
    funext t
    simp [move, shift]
  rw [List.map_map, hback, List.map_id]

lemma ofChars_move {r : Relocation} {line : ℤ} {k : ℕ} (hr : ∀ column, r.column line column = column + k)
    (column : ℕ) (cs : List Char) :
    ofChars (r.line line) (column + k) cs = (ofChars line column cs).map (move r) := by
  fun_induction ofChars line column cs with
  | case1 => simp [ofChars_nil]
  | case2 column c cs tail rest hk ih =>
    have hcolumn : column + k + 1 + tail.length = column + 1 + tail.length + k := by omega
    rw [ofChars_cons]
    simp only [hk]
    rw [hcolumn]
    exact ih
  | case3 column c cs tail rest kind hk ih =>
    have hcolumn : column + k + 1 + tail.length = column + 1 + tail.length + k := by omega
    have hmove : move r ⟨kind, kind.textOf c tail, line, column⟩ =
        ⟨kind, kind.textOf c tail, r.line line, column + k⟩ := by rw [move, hr]
    rw [ofChars_cons]
    simp only [hk, List.map_cons]
    rw [hcolumn, hmove]
    exact congrArg (_ :: ·) ih

open Relocation in
lemma ofChars_shift (k line : ℤ) (column : ℕ) (cs : List Char) :
    ofChars (line + k) column cs = (ofChars line column cs).map (move (shift k)) :=
  ofChars_move (r := shift k) (k := 0) (fun _ => rfl) column cs

open Relocation in
lemma ofLine_shift (k line : ℤ) (s : String) :
    ofLine (line + k) s = (ofLine line s).map (move (shift k)) := by
  rw [ofLine, ofLine]
  split
  · rfl
  · exact ofChars_shift k line 0 s.toList

open Relocation in
lemma ofLinesFrom_shift (k line : ℤ) (ss : List String) :
    ofLinesFrom (line + k) ss = (ofLinesFrom line ss).map (move (shift k)) := by
  induction ss generalizing line with
  | nil => rfl
  | cons s ss ih =>
    rw [ofLinesFrom, ofLinesFrom, List.map_append, ofLine_shift, ← ih, Int.add_right_comm]

lemma ofLinesFrom_append (line : ℤ) (ss us : List String) :
    ofLinesFrom line (ss ++ us) = ofLinesFrom line ss ++ ofLinesFrom (line + ss.length) us := by
  induction ss generalizing line with
  | nil => simp [ofLinesFrom]
  | cons s ss ih =>
    rw [List.cons_append, ofLinesFrom, ofLinesFrom, ih, List.append_assoc, List.length_cons]
    push_cast
    rw [add_assoc, add_comm (1 : ℤ)]

end Token

def Caution.move (r : Relocation) (c : Caution) : Caution :=
  { c with line := r.line c.line }

def Fault.move (r : Relocation) (f : Fault) : Fault :=
  match f.cause with
  | .nameMissing => f
  | _ => { f with line := r.line f.line, column := r.column f.line f.column }

end ScenarioScript
