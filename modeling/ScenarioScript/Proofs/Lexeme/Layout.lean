import Mathlib.Logic.Function.Basic
import ScenarioScript.Proofs.Lexeme.Order
import ScenarioScript.Proofs.Lexeme.Word
import ScenarioScript.Proofs.Relocation

namespace ScenarioScript

/-- Blank lines and comments are put between lines, and blanks in front of them. -/
inductive Relaid : List String → List String → Prop
  | nil : Relaid [] []
  | insert {ss us : List String} (u : String) (hu : Token.isComment u.toList = true)
      (h : Relaid ss us) : Relaid ss (u :: us)
  | indent {ss us : List String} (blanks s : String)
      (hb : ∀ c ∈ blanks.toList, Text.isBlank c = true) (h : Relaid ss us) :
      Relaid (s :: ss) ((blanks ++ s) :: us)

def Relocation.indent (line : ℤ → ℤ) (width : ℤ → ℕ) : Relocation :=
  ⟨line, fun l column => column + width l⟩

namespace Token

open Relocation

lemma ofLine_indent (line : ℤ → ℤ) {width : ℤ → ℕ} {n : ℤ} {blanks : String}
    (hb : ∀ c ∈ blanks.toList, Text.isBlank c = true) (hw : width n = blanks.length)
    (s : String) : ofLine (line n) (blanks ++ s) = (ofLine n s).map (move (indent line width)) := by
  have hcomment : isComment (blanks ++ s).toList = isComment s.toList := by
    rw [String.toList_append, isComment_blanks hb]
  have hcolumn (column : ℕ) : (indent line width).column n column = column + blanks.length := by
    simp only [indent, hw]
  rw [ofLine, ofLine, hcomment]
  split
  · rfl
  · rw [String.toList_append, ofChars_blanks hb, String.length_toList, ← ofChars_move hcolumn]
    rfl

lemma move_congr {r r' : Relocation} {t : Token} (hl : r.line t.line = r'.line t.line)
    (hc : r.column t.line = r'.column t.line) : t.move r = t.move r' := by
  rw [move, move, hl, hc]

end Token

/-- Lines from `n` on are found among lines from `m` on: where each one goes, how far it moves to the
right, and that their tokens go with them. -/
structure Carries (line : ℤ → ℤ) (width : ℤ → ℕ) (n m : ℤ) (ss us : List String) : Prop where
  mono : ∀ a b, a < b → line a < line b
  behind : ∀ l, n ≤ l → m ≤ line l
  lines : ∀ (i : ℕ) (s : String), ss[i]? = some s → ∃ (j : ℕ) (blanks : String),
    us[j]? = some (blanks ++ s) ∧ line (n + i) = m + j ∧ width (n + i) = blanks.length
  tokens : Token.ofLinesFrom m us =
    (Token.ofLinesFrom n ss).map (Token.move (.indent line width))

namespace Carries

open Relocation

lemma nil (n m : ℤ) : Carries (fun l => l + (m - n)) (fun _ => 0) n m [] [] where
  mono := fun a b hab => Int.add_lt_add_right hab (m - n)
  behind := by
    intro l hl
    omega
  lines := by simp
  tokens := rfl

variable {line : ℤ → ℤ} {width : ℤ → ℕ} {n m : ℤ} {ss us : List String}

lemma injective (h : Carries line width n m ss us) : line.Injective := by
  intro a b hab
  by_contra hne
  rcases Int.lt_or_gt_of_ne hne with hlt | hlt
  · have hline := h.mono a b hlt
    omega
  · have hline := h.mono b a hlt
    omega

lemma insert {u : String} (hu : Token.isComment u.toList = true)
    (h : Carries line width n (m + 1) ss us) : Carries line width n m ss (u :: us) where
  mono := h.mono
  behind := by
    intro l hl
    have hbehind := h.behind l hl
    omega
  lines := by
    intro i s hs
    obtain ⟨j, blanks, hj, hline, hwidth⟩ := h.lines i s hs
    refine ⟨j + 1, blanks, hj, ?_, hwidth⟩
    push_cast
    omega
  tokens := by
    have hnone : Token.ofLine m u = [] := by rw [Token.ofLine, if_pos hu]
    rw [Token.ofLinesFrom, hnone, List.nil_append, h.tokens]

lemma indent {blanks : String} (hb : ∀ c ∈ blanks.toList, Text.isBlank c = true) (s : String)
    (h : Carries line width (n + 1) (m + 1) ss us) :
    Carries (fun l => if l ≤ n then l - n + m else line l) (Function.update width n blanks.length)
      n m (s :: ss) ((blanks ++ s) :: us) where
  -- The later lines settle where lines above `n` go, and those up to `n` are free to follow them.
  mono := by
    intro a b hab
    split_ifs with hle hle
    · omega
    · have hbehind := h.behind b (by omega)
      omega
    · omega
    · exact h.mono a b hab
  behind := by
    intro l hl
    split_ifs with hle
    · omega
    · have hbehind := h.behind l (by omega)
      omega
  lines := by
    intro i u hu
    cases i with
    | zero =>
      obtain rfl : s = u := by simpa using hu
      exact ⟨0, blanks, rfl, by simp, by simp⟩
    | succ i =>
      obtain ⟨j, blanks', hj, hline, hwidth⟩ := h.lines i u (by simpa using hu)
      have hn : n + (i + 1 : ℕ) = n + 1 + i := by push_cast; omega
      refine ⟨j + 1, blanks', by simpa using hj, ?_, ?_⟩
      · rw [hn, if_neg (by omega), hline]
        push_cast
        omega
      · rw [hn, Function.update_of_ne (by omega), hwidth]
  tokens := by
    have hwidth : Function.update width n blanks.length n = blanks.length := by simp
    have hfirst := Token.ofLine_indent (fun l => if l ≤ n then l - n + m else line l) hb hwidth s
    -- No token of a later line stands in line `n`, so the width that is set there does not reach it.
    have hrest : ∀ t ∈ Token.ofLinesFrom (n + 1) ss, t.move (.indent line width) =
        t.move (.indent (fun l => if l ≤ n then l - n + m else line l)
          (Function.update width n blanks.length)) := by
      intro t ht
      have hline := Token.line_le_of_mem_ofLinesFrom t ht
      apply Token.move_congr
      · exact (if_neg (by omega)).symm
      · funext column
        simp only [Relocation.indent, Function.update_of_ne (show t.line ≠ n by omega)]
    rw [if_pos le_rfl, sub_self, zero_add] at hfirst
    rw [Token.ofLinesFrom, Token.ofLinesFrom, hfirst, h.tokens, List.map_congr_left hrest,
      List.map_append]

end Carries

lemma Relaid.carries {ss us : List String} (h : Relaid ss us) (n m : ℤ) :
    ∃ line width, Carries line width n m ss us := by
  induction h generalizing n m with
  | nil => exact ⟨_, _, .nil n m⟩
  | insert u hu _ ih =>
    obtain ⟨line, width, hc⟩ := ih n (m + 1)
    exact ⟨line, width, hc.insert hu⟩
  | indent blanks s hb _ ih =>
    obtain ⟨line, width, hc⟩ := ih (n + 1) (m + 1)
    exact ⟨_, _, hc.indent hb s⟩

end ScenarioScript
