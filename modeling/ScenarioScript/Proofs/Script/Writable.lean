import ScenarioScript.Proofs.Script.Written
import ScenarioScript.Proofs.Tags

namespace ScenarioScript

/-- Steps that a script can say: numbers that are read back, targets and retries that are not
negative, texts that no line break but the line feed cuts, and an action that is coherent. -/
structure Step.Writable (s : Step) : Prop where
  description : Text.Unbroken s.description
  expected : ∀ e ∈ s.expected, Text.Unbroken e
  timeout : ∀ n ∈ s.timeout, Decimal.isShort n = true
  retries : 0 ≤ s.retries ∧ Decimal.isShort s.retries = true
  texts : ∀ t ∈ s.action.texts, Text.Unbroken t
  targets : ∀ t ∈ s.action.targets, 0 ≤ t
  numbers : ∀ n ∈ s.action.numbers, Decimal.isShort n = true
  coherent : s.action.Coherent

instance (s : Step) : Decidable s.Writable :=
  decidable_of_iff
    (Text.Unbroken s.description ∧ (∀ e ∈ s.expected, Text.Unbroken e) ∧
      (∀ n ∈ s.timeout, Decimal.isShort n = true) ∧
      (0 ≤ s.retries ∧ Decimal.isShort s.retries = true) ∧
      (∀ t ∈ s.action.texts, Text.Unbroken t) ∧ (∀ t ∈ s.action.targets, 0 ≤ t) ∧
      (∀ n ∈ s.action.numbers, Decimal.isShort n = true) ∧ s.action.Coherent)
    ⟨fun ⟨d, e, t, r, x, g, n, c⟩ => ⟨d, e, t, r, x, g, n, c⟩,
      fun ⟨d, e, t, r, x, g, n, c⟩ => ⟨d, e, t, r, x, g, n, c⟩⟩

def Tags.Writable (tag : String) : Prop :=
  tag ≠ "" ∧ ∀ c ∈ tag.toList, c ≠ ',' ∧ c ≠ '[' ∧ c ≠ ']' ∧ Text.isLineBreak c = false

instance (tag : String) : Decidable (Tags.Writable tag) :=
  have : Decidable (∀ c ∈ tag.toList, c ≠ ',' ∧ c ≠ '[' ∧ c ≠ ']' ∧ Text.isLineBreak c = false) :=
    List.decidableBAll _ _
  inferInstanceAs (Decidable (_ ∧ _))

structure Scenario.Writable (s : Scenario) : Prop where
  name_ne : s.name ≠ ""
  name : Text.Unbroken s.name
  description : Text.Unbroken s.description
  startUrl : Text.Unbroken s.startUrl
  tags : ∀ t ∈ s.tags.toList, Tags.Writable t
  ids : s.steps.map (·.id) = (List.range s.steps.length).map Script.stepId
  steps : ∀ t ∈ s.steps, t.Writable

namespace Word

lemma arguments_sound {a : Action} (ht : ∀ t ∈ a.targets, 0 ≤ t)
    (hs : ∀ s ∈ a.texts, Text.Unbroken s) : ∀ w ∈ a.arguments, w.Sound := by
  intro w hw
  cases argument_of_mem hw with
  | target h => exact target_sound (ht _ h)
  | quoted h => exact quoted_sound (hs _ h)
  | number n => exact number_sound n
  | keyword => exact keyword_sound _

end Word

lemma Line.sound_keyword {k : Keyword} {ws : List Word} (h : ∀ w ∈ ws, w.Sound) (indent : ℕ) :
    Line.Sound ⟨indent, .keyword k :: ws⟩ := by
  refine ⟨?_, by simp [Word.keyword]⟩
  intro w hw
  rcases List.mem_cons.mp hw with rfl | hw
  · exact Word.keyword_sound k
  · exact h w hw

lemma Line.sound_closing (indent : ℕ) : Line.Sound ⟨indent, [.closing]⟩ :=
  ⟨by simp [Word.closing_sound], by simp [Word.closing]⟩

lemma Step.settingLines_sound {s : Step} (hs : s.Writable) : ∀ l ∈ s.settingLines, l.Sound := by
  intro l hl
  simp only [settingLines, List.mem_append, List.mem_map, List.mem_singleton] at hl
  rcases hl with ((⟨e, he, rfl⟩ | ⟨n, -, rfl⟩) | rfl) | hl
  · exact Line.sound_keyword (by simp [Word.quoted_sound (hs.expected e (by simpa using he))]) 8
  · exact Line.sound_keyword (by simp [Word.number_sound]) 8
  · exact Line.sound_keyword (by simp [Word.number_sound]) 8
  · obtain ⟨-, rfl⟩ : s.continueOnFailure = true ∧ l = ⟨8, [.keyword .continueOnFailure]⟩ := by
      simpa [List.mem_ite_nil_right] using hl
    exact Line.sound_keyword (by simp) 8

lemma Step.lines_sound {s : Step} (hs : s.Writable) : ∀ l ∈ s.lines, l.Sound := by
  intro l hl
  simp only [lines, bodyLines, List.mem_append, List.mem_cons, List.not_mem_nil, or_false] at hl
  rcases hl with (rfl | rfl | rfl | hl) | rfl
  · exact ⟨by simp, by simp⟩
  · exact Line.sound_keyword (by simp [Word.quoted_sound hs.description, Word.opening_sound]) 4
  · exact Line.sound_keyword (Word.arguments_sound hs.targets hs.texts) 8
  · exact settingLines_sound hs l hl
  · exact Line.sound_closing 4

lemma Scenario.lines_sound {s : Scenario} (hs : s.Writable) : ∀ l ∈ s.lines, l.Sound := by
  intro l hl
  have htags : (Word.tags s.tags.toList).Sound :=
    Word.tags_sound fun t ht c hc => ((hs.tags t ht).2 c hc).2
  simp only [lines, List.mem_append, List.mem_cons, List.mem_flatMap, List.not_mem_nil,
    or_false] at hl
  rcases hl with ((rfl | rfl | rfl | rfl | rfl) | ⟨t, ht, hl⟩) | rfl
  · exact Line.sound_keyword (by simp [Word.quoted_sound hs.name, Word.opening_sound]) 0
  · exact Line.sound_keyword (by simp [Word.quoted_sound hs.description]) 4
  · exact Line.sound_keyword (by simp [Word.quoted_sound hs.startUrl]) 4
  · exact Line.sound_keyword (by simp [htags]) 4
  · exact Line.sound_keyword (by simp [Word.keyword_sound]) 4
  · exact Step.lines_sound (hs.steps t ht) l hl
  · exact Line.sound_closing 0

lemma Scenario.ofText_script {s : Scenario} (hs : s.Writable) :
    Token.ofText s.script = Line.place 1 s.lines :=
  Line.ofText_chars (lines_sound hs)

end ScenarioScript
