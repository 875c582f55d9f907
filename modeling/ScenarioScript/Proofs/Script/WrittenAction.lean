import ScenarioScript.Proofs.Script.Writable

namespace ScenarioScript

namespace Token

lemma keyword_spelling (k : Keyword) (n : ℤ) (i : ℕ) :
    Token.keyword ⟨.keyword, k.spelling, n, i⟩ = some k := by
  simp [Token.keyword, Keyword.ofText?_spelling]

lemma keyword_eq_none {t : Token} (h : t.kind ≠ .keyword) : t.keyword = none := by
  simp [Token.keyword, h]

lemma is_spelling (j k : Keyword) (n : ℤ) (i : ℕ) :
    Token.is ⟨.keyword, k.spelling, n, i⟩ j = decide (k = j) := by
  simp [Token.is, keyword_spelling]

end Token

namespace Action

open Arguments Word

variable (settings : Settings) (n : ℤ) (i : ℕ)

lemma target?_place {t : ℤ} (ht : Decimal.isShort t = true) (ws : List Word) :
    target? (place n i (target t :: ws)) = some t := by
  simp [target?, firstText?, place, target, Decimal.read?_text ht]

lemma firstText?_place (s : String) (ws : List Word) :
    firstText? .string (place n i (quoted s :: ws)) = some s := by
  simp [firstText?, place, quoted]

lemma firstText?_place_target (t : ℤ) (s : String) (ws : List Word) :
    firstText? .string (place n i (target t :: quoted s :: ws)) = some s := by
  simp [firstText?, place, quoted, target]

lemma readWait_condition {c : WaitCondition} (hc : ∀ m ∈ c.numbers, Decimal.isShort m = true)
    {m : ℤ} (hm : Decimal.isShort m = true) (hl : c.Lasts m) (d : WaitDraft) :
    (readWait settings d (place n i (c.words ++ [Word.keyword .timeout, number m]))).wait =
      wait c m := by
  cases c <;>
    simp_all [readWait, place, WaitCondition.words, Word.keyword, number, target, quoted,
      Token.keyword, Keyword.ofText?_spelling, condition?, timedCondition?, front?, integerOr,
      Decimal.read?_text, WaitDraft.wait, WaitCondition.numbers, WaitCondition.Lasts]

lemma readAssertion_words (a : Assertion) :
    readAssertion .visible (place n i a.words) = a := by
  cases a <;>
    simp [readAssertion, place, Assertion.words, Word.keyword, quoted, Token.keyword,
      Keyword.ofText?_spelling, flag?, textAssertion?, front?]

lemma readAssertion_target (t : ℤ) (a : Assertion) :
    readAssertion .visible (place n i (target t :: a.words)) = a := by
  rw [place, readAssertion, Token.keyword_eq_none (by simp [target])]
  exact readAssertion_words n _ a

lemma lastButton_place (t : ℤ) (b : MouseButton) (count : ℤ) :
    lastButton (place n i (click t b count).arguments) = b := by
  by_cases hc : count = 2 <;> cases b <;>
    simp [lastButton, arguments, hc, place, target, Word.keyword, Word.flag, MouseButton.keyword,
      Token.keyword, Keyword.ofText?_spelling, button?]

lemma has_double_place (t : ℤ) (b : MouseButton) (count : ℤ) :
    has .double (place n i (click t b count).arguments) = decide (count = 2) := by
  by_cases hc : count = 2 <;> cases b <;>
    simp [has, arguments, hc, place, target, Word.keyword, Word.flag, MouseButton.keyword,
      Token.is, Token.keyword, Keyword.ofText?_spelling]

lemma has_flags_place (t : ℤ) (s : String) (clearFirst pressEnter : Bool) :
    has .clearFirst (place n i (type t s clearFirst pressEnter).arguments) = clearFirst ∧
      has .pressEnter (place n i (type t s clearFirst pressEnter).arguments) = pressEnter := by
  cases clearFirst <;> cases pressEnter <;>
    simp [has, arguments, place, target, quoted, Word.keyword, Word.flag, Token.is, Token.keyword,
      Keyword.ofText?_spelling]

lemma has_fullPage_place (s : String) (fullPage : Bool) :
    has .fullPage (place n i (screenshot s fullPage).arguments) = fullPage := by
  cases fullPage <;>
    simp [has, arguments, place, quoted, Word.keyword, Word.flag, Token.is, Token.keyword,
      Keyword.ofText?_spelling]

lemma modifiers_place (s : String) (m : Modifiers) :
    modifiers (place n i (pressKey s m).arguments) = m := by
  obtain ⟨alt, ctrl, metaKey, shift⟩ := m
  cases alt <;> cases ctrl <;> cases metaKey <;> cases shift <;>
    simp [arguments, modifiers, place, quoted, Word.keyword, KeyModifier.keyword, Token.keyword,
      Keyword.ofText?_spelling, modifier?, Modifiers.toList, Modifiers.ofList, Modifiers.insert,
      Modifiers.empty]

lemma readScroll_place {d : ScrollDirection} {m : ℤ} {t : Option ℤ}
    (hm : Decimal.isShort m = true) (ht : ∀ k ∈ t, Decimal.isShort k = true) (amount : ℤ) :
    (place n i (scroll d m t).arguments).foldl (readScroll settings) ⟨.down, amount, none⟩ =
      ⟨d, m, t⟩ := by
  have hr : ∀ k ∈ t, Decimal.read? (Decimal.text k) = some k := fun k hk => Decimal.read?_text (ht k hk)
  cases d <;> cases t <;>
    simp_all [arguments, place, readScroll, number, target, Word.keyword, ScrollDirection.keyword,
      Token.keyword, Keyword.ofText?_spelling, direction?, integerOr, Decimal.read?_text hm]

lemma readChoice_place {t : ℤ} {value label : Option String} {index : Option ℤ}
    (hi : ∀ m ∈ index, Decimal.isShort m = true) :
    readChoice ⟨none, none, none⟩ (place n i (select t value label index).arguments) =
      ⟨value, label, index⟩ := by
  have hr : ∀ m ∈ index, Decimal.read? (Decimal.text m) = some m := fun m hm =>
    Decimal.read?_text (hi m hm)
  cases value <;> cases label <;> cases index <;>
    simp_all [arguments, readChoice, place, target, quoted, number, Word.keyword, Token.keyword,
      Keyword.ofText?_spelling, front?]

lemma ofArguments?_arguments {a : Action} (hn : ∀ m ∈ a.numbers, Decimal.isShort m = true)
    (ha : a.Coherent) :
    ofArguments? settings (place n i a.arguments) a.keyword = some (some a) := by
  cases a with
  | click t b count =>
    have ht := target?_place n i (hn t (by simp [numbers]))
    simp only [keyword, ofArguments?, lastButton_place, has_double_place]
    rcases ha with rfl | rfl <;> simp [arguments, ht]
  | type t s clearFirst pressEnter =>
    have ht := target?_place n i (hn t (by simp [numbers]))
    obtain ⟨hc, hp⟩ := has_flags_place n i t s clearFirst pressEnter
    simp only [keyword, ofArguments?, hc, hp]
    simp [arguments, ht, firstText?_place_target]
  | hover t => 
    have ht := target?_place n i (hn t (by simp [numbers]))
    simp [keyword, ofArguments?, arguments, ht]
  | scroll d m t =>
    have ht : ∀ k ∈ t, Decimal.isShort k = true := by simp_all [numbers]
    simp only [keyword, ofArguments?,
      readScroll_place settings n i (hn m (by simp [numbers])) ht settings.scrollAmount]
  | wait c m =>
    have hc : ∀ k ∈ c.numbers, Decimal.isShort k = true := fun k hk => hn k (by simp [numbers, hk])
    simp only [keyword, ofArguments?, arguments,
      readWait_condition settings n i hc (hn m (by simp [numbers])) ha]
  | pressKey s m =>
    have hs : s.isEmpty = false := by simpa [Coherent] using ha
    simp only [keyword, ofArguments?, modifiers_place]
    simp [arguments, firstText?_place, nonempty?, hs]
  | navigate s => simp [keyword, ofArguments?, arguments, firstText?_place]
  | goBack | goForward | refresh => rfl
  | assert t a =>
    have ht := target?_place n i (hn t (by simp [numbers]))
    simp [keyword, ofArguments?, arguments, ht, readAssertion_target]
  | select t value label index =>
    have ht := target?_place n i (hn t (by simp [numbers]))
    have hi : ∀ m ∈ index, Decimal.isShort m = true := by simp_all [numbers]
    simp only [keyword, ofArguments?, readChoice_place n i hi]
    simp [arguments, ht]
  | uploadFile t s =>
    have ht := target?_place n i (hn t (by simp [numbers]))
    have hs : s.isEmpty = false := by simpa [Coherent] using ha
    simp [keyword, ofArguments?, arguments, ht, firstText?_place_target, nonempty?, hs]
  | screenshot s fullPage =>
    simp only [keyword, ofArguments?, has_fullPage_place]
    simp [arguments, firstText?_place]

end Action
end ScenarioScript
