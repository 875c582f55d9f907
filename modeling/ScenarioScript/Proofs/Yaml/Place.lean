import Mathlib.Data.Nat.Notation
import ScenarioScript.Proofs.Yaml.Runs
import ScenarioScript.Yaml.Place

namespace ScenarioScript.Yaml

open Scalar (isBreak isSpace spaces Past)

namespace Place

lemma after_append (p : Place) (cs ds : List Char) : p.after (cs ++ ds) = (p.after cs).after ds :=
  List.foldl_append

lemma after_cons (p : Place) (c : Char) (cs : List Char) : p.after (c :: cs) = (p.next c).after cs :=
  rfl

lemma column_after_spaces (p : Place) (n : ℕ) : (p.after (spaces n)).column = p.column + n := by
  induction n generalizing p with
  | zero => rfl
  | succ n ih =>
    have hnext : p.after (spaces (n + 1)) = (p.next ' ').after (spaces n) := rfl
    rw [hnext, ih]
    simp [next, isBreak]
    omega

lemma column_after_line (p : Place) (n : ℕ) : (p.after ('\n' :: spaces n)).column = n := by
  rw [after_cons, column_after_spaces]
  simp [next, isBreak]

lemma column_le_after {cs : List Char} (h : ∀ c ∈ cs, isBreak c = false) (p : Place) :
    p.column ≤ (p.after cs).column := by
  induction cs generalizing p with
  | nil => exact Nat.le_refl _
  | cons c cs ih =>
    refine Nat.le_trans ?_ (ih (fun d hd => h d (by simp [hd])) (p.next c))
    simp only [next, h c (by simp), Bool.false_eq_true, if_false]
    split <;> simp

lemma offset_after (p : Place) (cs : List Char) : (p.after cs).offset = p.offset + cs.length := by
  induction cs generalizing p with
  | nil => rfl
  | cons c cs ih =>
    have hnext : (p.next c).offset = p.offset + 1 := by
      unfold next
      split
      · rfl
      · split <;> rfl
    rw [after_cons, ih, hnext, List.length_cons]
    omega

lemma line_after {cs : List Char} (h : ∀ c ∈ cs, isBreak c = false) (p : Place) :
    (p.after cs).line = p.line := by
  induction cs generalizing p with
  | nil => rfl
  | cons c cs ih =>
    rw [after_cons, ih fun d hd => h d (by simp [hd])]
    simp only [next, h c (by simp), Bool.false_eq_true, if_false]
    split <;> rfl

lemma line_le_after (p : Place) (cs : List Char) : p.line ≤ (p.after cs).line := by
  induction cs generalizing p with
  | nil => exact Nat.le_refl _
  | cons c cs ih =>
    refine Nat.le_trans ?_ (ih (p.next c))
    unfold next
    split
    · exact Nat.le_succ _
    · split <;> exact Nat.le_refl _

lemma line_lt_after {cs : List Char} {c : Char} (hc : c ∈ cs) (hb : isBreak c = true) (p : Place) :
    p.line < (p.after cs).line := by
  induction cs generalizing p with
  | nil => simp at hc
  | cons d cs ih =>
    rcases List.mem_cons.mp hc with rfl | hc
    · refine Nat.lt_of_lt_of_le ?_ (line_le_after (p.next c) cs)
      simp [next, hb]
    · refine Nat.lt_of_le_of_lt ?_ (ih hc (p.next d))
      exact line_le_after p [d]

end Place

structure SymbolStart (rest : List Char) : Prop where
  space : Past isSpace rest
  break_ : Past isBreak rest
  comment : rest.head? ≠ some '#'
  byteOrder : rest.head? ≠ some '\ufeff'

structure LineStart (rest : List Char) : Prop extends SymbolStart rest where
  separator : atSeparator rest = false

lemma LineStart.nil : LineStart [] :=
  ⟨⟨by simp [Past], by simp [Past], by simp, by simp⟩, rfl⟩

lemma LineStart.atSeparator {rest : List Char} (h : LineStart rest) (k : ℕ) :
    atSeparator (spaces k ++ rest) = false := by
  cases k with
  | zero => exact h.separator
  | succ k => rfl

end ScenarioScript.Yaml
