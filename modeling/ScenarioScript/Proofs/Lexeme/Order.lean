import Mathlib.Data.Prod.Lex
import ScenarioScript.Lexeme

namespace ScenarioScript.Token

def place (t : Token) : ℤ ×ₗ ℕ :=
  toLex (t.line, t.column)

lemma place_lt_place {t u : Token} :
    t.place < u.place ↔ t.line < u.line ∨ t.line = u.line ∧ t.column < u.column :=
  Prod.Lex.toLex_lt_toLex

lemma line_le_of_place_lt {t u : Token} (h : t.place < u.place) : t.line ≤ u.line := by
  rcases place_lt_place.mp h with h | ⟨h, -⟩
  · exact h.le
  · exact h.le

lemma mem_ofChars {line : ℤ} {column : ℕ} {cs : List Char} :
    ∀ t ∈ ofChars line column cs, t.line = line ∧ column ≤ t.column := by
  fun_induction ofChars line column cs with
  | case1 => simp
  | case2 column c cs tail rest _ ih =>
    intro t ht
    obtain ⟨hl, hc⟩ := ih t ht
    exact ⟨hl, by omega⟩
  | case3 column c cs tail rest kind _ ih =>
    intro t ht
    rcases List.mem_cons.mp ht with rfl | ht
    · exact ⟨rfl, le_rfl⟩
    · obtain ⟨hl, hc⟩ := ih t ht
      exact ⟨hl, by omega⟩

lemma pairwise_ofChars (line : ℤ) (column : ℕ) (cs : List Char) :
    (ofChars line column cs).Pairwise (·.place < ·.place) := by
  fun_induction ofChars line column cs with
  | case1 => exact .nil
  | case2 column c cs tail rest _ ih => exact ih
  | case3 column c cs tail rest kind _ ih =>
    refine List.pairwise_cons.mpr ⟨fun t ht => ?_, ih⟩
    obtain ⟨hl, hc⟩ := mem_ofChars t ht
    have hlt : column < t.column := by omega
    exact place_lt_place.mpr (.inr ⟨hl.symm, hlt⟩)

lemma mem_ofLine {line : ℤ} {s : String} {t : Token} (ht : t ∈ ofLine line s) : t.line = line := by
  rw [ofLine] at ht
  split at ht
  · simp at ht
  · exact (mem_ofChars t ht).1

lemma pairwise_ofLine (line : ℤ) (s : String) : (ofLine line s).Pairwise (·.place < ·.place) := by
  rw [ofLine]
  split
  · exact .nil
  · exact pairwise_ofChars line 0 s.toList

lemma line_le_of_mem_ofLinesFrom {line : ℤ} {ss : List String} :
    ∀ t ∈ ofLinesFrom line ss, line ≤ t.line := by
  induction ss generalizing line with
  | nil => simp [ofLinesFrom]
  | cons s ss ih =>
    intro t ht
    rcases List.mem_append.mp ht with ht | ht
    · exact (mem_ofLine ht).ge
    · have h := ih t ht
      omega

lemma line_lt_of_mem_ofLinesFrom {line : ℤ} {ss : List String} :
    ∀ t ∈ ofLinesFrom line ss, t.line < line + ss.length := by
  induction ss generalizing line with
  | nil => simp [ofLinesFrom]
  | cons s ss ih =>
    intro t ht
    rw [List.length_cons]
    rcases List.mem_append.mp ht with ht | ht
    · have hl := mem_ofLine ht
      omega
    · have hl := ih t ht
      omega

lemma pairwise_ofLinesFrom (line : ℤ) (ss : List String) :
    (ofLinesFrom line ss).Pairwise (·.place < ·.place) := by
  induction ss generalizing line with
  | nil => exact .nil
  | cons s ss ih =>
    refine List.pairwise_append.mpr ⟨pairwise_ofLine line s, ih (line + 1), fun t ht u hu => ?_⟩
    have hl := mem_ofLine ht
    have hu := line_le_of_mem_ofLinesFrom u hu
    exact place_lt_place.mpr (.inl (by omega))

lemma pairwise_ofText (s : String) : (ofText s).Pairwise (·.place < ·.place) :=
  pairwise_ofLinesFrom 1 (Text.lines s)

end ScenarioScript.Token
