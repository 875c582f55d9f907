import ScenarioScript.Proofs.Block
import ScenarioScript.Proofs.Script.WrittenStep
import ScenarioScript.Proofs.Walk.Script

namespace ScenarioScript

namespace Block

def Says (settings : Settings) (b : Block) (s : Step) : Prop :=
  b.step? settings s.id = some s ∧ b.cautions settings = []

end Block

namespace Word

lemma flat_place {ws : List Word} (h : ∀ w ∈ ws, w.kind ≠ .braceOpen ∧ w.kind ≠ .braceClose) (n : ℤ)
    (i : ℕ) : Block.Flat (place n i ws) := by
  intro t ht
  obtain ⟨w, hw, j, rfl⟩ := exists_of_mem_place ht
  exact h w hw

lemma Follows.flat {w : Word} {k : Keyword} (h : w.Follows k) :
    w.kind ≠ .braceOpen ∧ w.kind ≠ .braceClose := by
  rcases h with h | ⟨j, rfl, -⟩
  · simp only [List.mem_cons, List.not_mem_nil, or_false] at h
    rcases h with h | h | h <;> simp [h]
  · simp [keyword]

end Word

lemma Line.flat_place {ls : List Line}
    (h : ∀ l ∈ ls, ∀ w ∈ l.words, w.kind ≠ .braceOpen ∧ w.kind ≠ .braceClose) (n : ℤ) :
    Block.Flat (Line.place n ls) := by
  induction ls generalizing n with
  | nil => simp [Line.place, Block.Flat]
  | cons l ls ih =>
    intro t ht
    rcases List.mem_append.mp ht with ht | ht
    · exact Word.flat_place (h l (by simp)) n _ t ht
    · exact ih (fun m hm => h m (by simp [hm])) (n + 1) t ht

namespace Step

lemma flat_words (s : Step) : ∀ l ∈ s.bodyLines, ∀ w ∈ l.words,
    w.kind ≠ .braceOpen ∧ w.kind ≠ .braceClose := by
  intro l hl w hw
  simp only [bodyLines, settingLines, List.mem_cons, List.mem_append, List.mem_map,
    List.not_mem_nil, or_false] at hl
  rcases hl with rfl | (((⟨e, -, rfl⟩ | ⟨m, -, rfl⟩) | rfl) | hl)
  · rcases List.mem_cons.mp hw with rfl | hw
    · simp [Word.keyword]
    · exact (Word.arguments_follow s.action w hw).flat
  · simp only [List.mem_cons, List.not_mem_nil, or_false] at hw
    rcases hw with rfl | rfl <;> simp [Word.keyword, Word.quoted]
  · simp only [List.mem_cons, List.not_mem_nil, or_false] at hw
    rcases hw with rfl | rfl <;> simp [Word.keyword, Word.number]
  · simp only [List.mem_cons, List.not_mem_nil, or_false] at hw
    rcases hw with rfl | rfl <;> simp [Word.keyword, Word.number]
  · obtain ⟨-, rfl⟩ : s.continueOnFailure = true ∧ l = ⟨8, [.keyword .continueOnFailure]⟩ := by
      simpa [List.mem_ite_nil_right] using hl
    obtain rfl : w = .keyword .continueOnFailure := by simpa using hw
    simp [Word.keyword]

lemma flat_bodyLines (s : Step) (n : ℤ) : Block.Flat (Line.place n s.bodyLines) :=
  Line.flat_place s.flat_words n

lemma outline_lines (settings : Settings) {s : Step} (hs : s.Writable) (n : ℤ) (ts : List Token) :
    ∃ b, b.Says settings s ∧ outline (Line.place n s.lines ++ ts) = .step b :: outline ts := by
  let head : Token := ⟨.keyword, Keyword.step.spelling, n + 1, 4⟩
  let b : Block := ⟨head, s.description, Line.place (n + 1 + 1) s.bodyLines, true⟩
  have hd : b.draft settings = (⟨some s.action, s.expected, s.timeout, s.retries,
      s.continueOnFailure⟩, []) := draft_bodyLines settings hs _
  refine ⟨b, ⟨?_, ?_⟩, ?_⟩
  · rw [Block.step?, hd]
    rfl
  · rw [Block.cautions, hd]
    rfl
  · let close : Token := ⟨.braceClose, Word.closing.text, n + 1 + 1 + s.bodyLines.length, 4⟩
    have hinner := Block.inner_flat ts (flat_bodyLines s (n + 1 + 1)) (t := close) rfl
    have hlines : Line.place n s.lines ++ ts = head ::
        ⟨.string, s.description, n + 1, 4 + Keyword.step.spelling.toList.length + 1⟩ ::
        ⟨.braceOpen, Word.opening.text, n + 1, 4 + Keyword.step.spelling.toList.length + 1 +
          (Word.quoted s.description).chars.length + 1⟩ ::
        (Line.place (n + 1 + 1) s.bodyLines ++ close :: ts) := by
      simp [lines, Line.place, Line.place_append, Word.place, head, close, Word.keyword, Word.quoted,
        Word.opening, Word.closing]
    rw [hlines, outline_cons, Item.readAt]
    simp only [head, Token.keyword_spelling, Block.read, if_pos]
    rw [Block.outer_open _ rfl, hinner]
    rfl

end Step

lemma Scenario.outline_steps (settings : Settings) {ss : List Step} (h : ∀ s ∈ ss, s.Writable) (n : ℤ)
    (ts : List Token) :
    ∃ bs, List.Forall₂ (Block.Says settings) bs ss ∧
      outline (Line.place n (ss.flatMap Step.lines) ++ ts) = bs.map .step ++ outline ts := by
  induction ss generalizing n with
  | nil => exact ⟨[], .nil, rfl⟩
  | cons s ss ih =>
    obtain ⟨bs, hbs, ho⟩ := ih (fun t ht => h t (by simp [ht])) (n + s.lines.length)
    obtain ⟨b, hb, hl⟩ := Step.outline_lines settings (h s (by simp)) n
      (Line.place (n + s.lines.length) (ss.flatMap Step.lines) ++ ts)
    refine ⟨b :: bs, .cons hb hbs, ?_⟩
    rw [List.flatMap_cons, Line.place_append, List.append_assoc, hl, ho]
    rfl

namespace Script.Draft

lemma addBlock_of_saying {settings : Settings} {b : Block} {s : Step} (h : b.Says settings s) {d : Draft}
    (hid : s.id = stepId d.blocks) :
    d.addBlock settings b = { d with blocks := d.blocks + 1, steps := d.steps ++ [s] } := by
  obtain ⟨hs, hc⟩ := h
  rw [hid] at hs
  simp [addBlock, hs, hc]

lemma addAll_steps {settings : Settings} {bs : List Block} {ss : List Step}
    (h : List.Forall₂ (Block.Says settings) bs ss) (d : Draft)
    (hid : ss.map (·.id) = (List.range' d.blocks ss.length).map stepId) :
    d.addAll settings (bs.map .step) =
      { d with blocks := d.blocks + ss.length, steps := d.steps ++ ss } := by
  induction h generalizing d with
  | nil => simp [addAll]
  | @cons b s bs ss hb _ ih =>
    rw [List.length_cons, List.range'_succ, List.map_cons, List.map_cons, List.cons.injEq] at hid
    have ih' := ih (d.addBlock settings b) (by rw [addBlock_of_saying hb hid.1]; exact hid.2)
    rw [addAll, List.map_cons, List.foldl_cons, add, ← addAll, ih', addBlock_of_saying hb hid.1]
    simp [Nat.add_comm, Nat.add_left_comm]

end Script.Draft

namespace Scenario

def headDraft (s : Scenario) : Script.Draft :=
  { Script.Draft.empty with
    name := s.name, description := s.description, startUrl := s.startUrl, tags := s.tags,
    priority := s.priority }

def headItems (s : Scenario) : List Item :=
  [.name ⟨.keyword, Keyword.scenario.spelling, 1, 0⟩ s.name, .description s.description,
    .url s.startUrl, .tags s.tags,
    .priority ⟨.keyword, s.priority.keyword.spelling, 1 + 1 + 1 + 1 + 1,
      4 + Keyword.priority.spelling.toList.length + 1⟩]

lemma outline_header (s : String) (n : ℤ) (ts : List Token) :
    outline (Word.place n 0 [.keyword .scenario, .quoted s, .opening] ++ ts) =
      .name ⟨.keyword, Keyword.scenario.spelling, n, 0⟩ s :: outline ts := by
  simp [Word.place, Word.keyword, Word.quoted, Word.opening, outline_cons, Item.readAt, Item.setting,
    Item.value?, Token.keyword_spelling, Token.keyword_eq_none, Token.is]

lemma outline_description (s : String) (n : ℤ) (ts : List Token) :
    outline (Word.place n 4 [.keyword .description, .quoted s] ++ ts) =
      .description s :: outline ts := by
  simp [Word.place, Word.keyword, Word.quoted, outline_cons, Item.readAt, Item.setting, Item.value?,
    Token.keyword_spelling, Token.keyword_eq_none, Token.is]

lemma outline_url (s : String) (n : ℤ) (ts : List Token) :
    outline (Word.place n 4 [.keyword .url, .quoted s] ++ ts) = .url s :: outline ts := by
  simp [Word.place, Word.keyword, Word.quoted, outline_cons, Item.readAt, Item.setting, Item.value?,
    Token.keyword_spelling, Token.keyword_eq_none, Token.is]

lemma outline_tags {s : SortedSet String} (hs : Tags.read (Word.tags s.toList).text = s) (n : ℤ)
    (ts : List Token) :
    outline (Word.place n 4 [.keyword .tags, .tags s.toList] ++ ts) = .tags s :: outline ts := by
  have hk : (Word.tags s.toList).kind = .array := rfl
  simp [Word.place, Word.keyword, hk, hs, outline_cons, Item.readAt, Item.setting, Item.value?,
    Token.keyword_spelling, Token.keyword_eq_none, Token.is]

lemma outline_priority (p : Priority) (n : ℤ) (ts : List Token) :
    outline (Word.place n 4 [.keyword .priority, .keyword p.keyword] ++ ts) =
      .priority ⟨.keyword, p.keyword.spelling, n, 4 + Keyword.priority.spelling.toList.length + 1⟩ ::
        outline ts := by
  have hp : p.keyword ≠ .step := by cases p <;> decide
  simp [Word.place, Word.keyword, hp, outline_cons, Item.readAt, Item.setting, Item.value?,
    Token.keyword_spelling, Token.is_spelling]

lemma priority?_keyword (p : Priority) : Script.priority? p.keyword = some p := by
  cases p <;> rfl

lemma addAll_headItems (settings : Settings) (s : Scenario) :
    Script.Draft.empty.addAll settings s.headItems = s.headDraft := by
  simp [headItems, Script.Draft.addAll, Script.Draft.add, headDraft, Script.Draft.empty,
    Token.keyword_spelling, priority?_keyword]

lemma outline_closing (n : ℤ) (i : ℕ) : outline (Line.place n [⟨i, [.closing]⟩]) = [] := by
  simp [Line.place, Word.place, Word.closing, outline_cons, outline_nil, Item.readAt,
    Token.keyword_eq_none]

lemma outline_lines (settings : Settings) {s : Scenario} (hs : s.Writable) :
    ∃ bs, List.Forall₂ (Block.Says settings) bs s.steps ∧
      outline (Line.place 1 s.lines) = s.headItems ++ bs.map .step := by
  obtain ⟨bs, hbs, ho⟩ := outline_steps settings hs.steps (1 + 1 + 1 + 1 + 1 + 1)
    (Line.place (1 + 1 + 1 + 1 + 1 + 1 + (s.steps.flatMap Step.lines).length) [⟨0, [.closing]⟩])
  have htags : Tags.read (Word.tags s.tags.toList).text = s.tags :=
    Tags.read_tags (fun t ht => (hs.tags t ht).1) fun t ht hc => ((hs.tags t ht).2 ',' hc).1 rfl
  refine ⟨bs, hbs, ?_⟩
  rw [outline_closing, List.append_nil] at ho
  rw [lines, List.append_assoc]
  simp only [List.cons_append, List.nil_append, Line.place, Line.place_append, outline_header,
    outline_description, outline_url, outline_tags htags, outline_priority]
  simp only [Line.place] at ho
  rw [ho]
  rfl

/-- A script that was written says its scenario, which gets the id of all scenarios that are read. -/
theorem read_script (settings : Settings) {s : Scenario} (hs : s.Writable) :
    Script.read settings s.script = ⟨some { s with id := Script.scenarioId }, [], []⟩ := by
  obtain ⟨bs, hbs, ho⟩ := outline_lines settings hs
  have hids : s.steps.map (·.id) =
      (List.range' s.headDraft.blocks s.steps.length).map Script.stepId := by
    rw [hs.ids, List.range_eq_range']
    rfl
  have hdraft : Script.Draft.empty.addAll settings (outline (Line.place 1 s.lines)) =
      { s.headDraft with blocks := s.headDraft.blocks + s.steps.length, steps := s.steps } := by
    rw [ho, Script.Draft.addAll_append, addAll_headItems, Script.Draft.addAll_steps hbs _ hids]
    rfl
  have hne : s.name.isEmpty = false := by simpa using hs.name_ne
  rw [Script.read_eq, ofText_script hs, Script.ofTokens, hdraft, Script.Draft.reading]
  simp [headDraft, hne, Script.Draft.empty]

def specimen : Scenario where
  id := Script.scenarioId
  name := "step \"a\" \x7b // \\"
  description := "two\nlines"
  startUrl := ""
  steps := [
    ⟨"step_0", "# no comment", .wait (.pageLoaded 7) 7, some "\x7d", some (-5), 3, true⟩,
    ⟨"step_1", "", .select 4 (some "click #1") none (some (-2)), none, none, 0, false⟩]
  tags := .ofList ["b c", "a\"", "\\"]
  priority := .low

lemma specimen_writable : specimen.Writable where
  name_ne := by decide
  name := by decide +kernel
  description := by decide +kernel
  startUrl := by decide +kernel
  tags := by decide +kernel
  ids := by decide +kernel
  steps := by decide +kernel

theorem read_script_specimen : specimen.Writable ∧
    Script.read {} specimen.script = ⟨some specimen, [], []⟩ :=
  ⟨specimen_writable, read_script {} specimen_writable⟩

end Scenario

end ScenarioScript
