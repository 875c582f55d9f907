import ScenarioScript.Proofs.Lexeme.Reach
import ScenarioScript.Proofs.Scenario.Parts
import ScenarioScript.Proofs.Text.Lines

namespace ScenarioScript

namespace Token

structure Tidy (t : Token) : Prop where
  string : t.kind = .string → Text.Unbroken t.text
  array : t.kind = .array → ∀ c ∈ t.text.toList, Text.isLineBreak c = false
  target : t.kind = .targetId → t.text ≠ "" ∧ ∀ c ∈ t.text.toList, c.isDigit = true

def Lexed (t : Token) : Prop :=
  ∃ line s, t ∈ ofLine line s

end Token

namespace Lexeme

lemma mem_stringText {c : Char} {cs : List Char} (h : c ∈ stringText cs) :
    c = '\n' ∨ c = '\t' ∨ c ∈ cs := by
  fun_induction stringText cs with
  | case1 => simp at h
  | case2 cs => simp at h
  | case3 d cs ih =>
    rcases List.mem_cons.mp h with rfl | h
    · unfold unescape
      split <;> simp
    · rcases ih h with h | h | h <;> simp [h]
  | case4 d cs _ _ ih =>
    rcases List.mem_cons.mp h with rfl | h
    · simp
    · rcases ih h with h | h | h <;> simp [h]

end Lexeme

namespace Token

lemma digits_of_reach {c : Char} {cs tail : List Char}
    (h : Lexeme.reach c cs = (some .targetId, tail)) :
    TokenKind.targetId.textOf c tail ≠ "" ∧
      ∀ d ∈ (TokenKind.targetId.textOf c tail).toList, d.isDigit = true := by
  cases Lexeme.reaches_of_reach h with
  | targetId hdigit =>
    simp only [TokenKind.textOf, String.toList_ofList]
    constructor
    · intro hempty
      exact Lexeme.digitRun_ne_nil hdigit (by simpa using congrArg String.toList hempty)
    · exact fun d hd => List.mem_takeWhile_imp hd

lemma tidy_of_reach {line : ℤ} {column : ℕ} {c : Char} {tail rest : List Char} {kind : TokenKind}
    (h : Lexeme.reach c (tail ++ rest) = (some kind, tail))
    (hcs : ∀ d ∈ c :: (tail ++ rest), Text.isLineBreak d = false) :
    Tidy ⟨kind, kind.textOf c tail, line, column⟩ where
  string hk := by
    subst hk
    intro d hd hbreak
    have hd : d ∈ Lexeme.stringText tail := by simpa [TokenKind.textOf] using hd
    rcases Lexeme.mem_stringText hd with rfl | rfl | hd
    · rfl
    · simp [Text.isLineBreak] at hbreak
    · simp [hcs d (by simp [hd])] at hbreak
  array hk := by
    subst hk
    intro d hd
    have hd : d ∈ c :: tail := by simpa [TokenKind.textOf] using hd
    exact hcs d (List.mem_append_left rest hd)
  target hk := by
    subst hk
    exact digits_of_reach h

lemma exists_reach_of_mem_ofChars {line : ℤ} {pre cs : List Char} {t : Token}
    (ht : t ∈ ofChars line pre.length cs) : ∃ before c tail rest kind,
      pre ++ cs = before ++ c :: (tail ++ rest) ∧ Lexeme.reach c (tail ++ rest) = (some kind, tail) ∧
      t = ⟨kind, kind.textOf c tail, line, before.length⟩ := by
  induction pre, cs using Lexeme.reach_induction with
  | nil pre => simp [ofChars_nil] at ht
  | cons pre c tail rest htail ih =>
    rw [ofChars_reach htail, List.mem_append] at ht
    rcases ht with ht | ht
    · obtain ⟨kind, hkind, rfl⟩ := Option.map_eq_some_iff.mp (Option.mem_toList.mp ht)
      exact ⟨pre, c, tail, rest, kind, rfl, Prod.ext hkind htail, rfl⟩
    · rw [← List.length_append] at ht
      obtain ⟨before, d, further, last, kind, hs, h⟩ := ih ht
      exact ⟨before, d, further, last, kind, by rw [← hs, List.append_assoc, List.cons_append], h⟩

lemma exists_reach_of_mem_ofLine {line : ℤ} {s : String} {t : Token} (ht : t ∈ ofLine line s) :
    ∃ before c tail rest kind, s.toList = before ++ c :: (tail ++ rest) ∧
      Lexeme.reach c (tail ++ rest) = (some kind, tail) ∧
      t = ⟨kind, kind.textOf c tail, line, before.length⟩ := by
  rw [ofLine] at ht
  split at ht
  · simp at ht
  · exact @exists_reach_of_mem_ofChars line [] s.toList t ht

lemma tidy_ofLine {line : ℤ} {s : String} (hs : ∀ c ∈ s.toList, Text.isLineBreak c = false) :
    ∀ t ∈ ofLine line s, t.Tidy := by
  intro t ht
  obtain ⟨before, c, tail, rest, kind, hcs, hreach, rfl⟩ := exists_reach_of_mem_ofLine ht
  exact tidy_of_reach hreach fun d hd => hs d (by rw [hcs]; exact List.mem_append_right before hd)

lemma Lexed.digits {t : Token} (ht : t.Lexed) (hk : t.kind = .targetId) :
    t.text ≠ "" ∧ ∀ c ∈ t.text.toList, c.isDigit = true := by
  obtain ⟨line, s, hmem⟩ := ht
  obtain ⟨before, c, tail, rest, kind, -, hreach, rfl⟩ := exists_reach_of_mem_ofLine hmem
  dsimp only at hk
  subst hk
  exact digits_of_reach hreach

lemma tidy_ofLinesFrom {line : ℤ} {ss : List String}
    (hss : ∀ s ∈ ss, ∀ c ∈ s.toList, Text.isLineBreak c = false) :
    ∀ t ∈ ofLinesFrom line ss, t.Tidy := by
  induction ss generalizing line with
  | nil => simp [ofLinesFrom]
  | cons s ss ih =>
    intro t ht
    rcases List.mem_append.mp ht with ht | ht
    · exact tidy_ofLine (hss s (by simp)) t ht
    · exact ih (fun u hu => hss u (by simp [hu])) t ht

lemma tidy_ofText {s : String} : ∀ t ∈ ofText s, t.Tidy := by
  refine tidy_ofLinesFrom fun l hl c hc => ?_
  obtain ⟨cs, hcs, rfl⟩ := List.mem_map.mp hl
  exact Text.isLineBreak_of_mem_linesOf hcs (by simpa using hc)

end Token

end ScenarioScript
