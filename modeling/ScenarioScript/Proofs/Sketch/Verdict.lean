import ScenarioScript.Proofs.Finding.Exact
import ScenarioScript.Proofs.Sketch
import ScenarioScript.Sketch.Check

namespace ScenarioScript

open Sketch

namespace Part

lemma flawBelow_positive (flaw : Document → Flaw) (n : ℤ) :
    flawBelow false flaw (plain (.int n)) = .ok (if n ≤ 0 then [flaw (.int n)] else []) := by
  have hle : (n < 0 ∨ n = 0) ↔ n ≤ 0 := by omega
  simp [flawBelow, Document.number?, hle]

lemma flawBelow_natural (flaw : Document → Flaw) (n : ℤ) :
    flawBelow true flaw (plain (.int n)) = .ok (if n < 0 then [flaw (.int n)] else []) := by
  simp [flawBelow, Document.number?]

lemma flawUnless_text (flaw : Flaw) (s : String) :
    flawUnless flaw (plain (.text s)) = if s.isEmpty then [flaw] else [] := by
  simp [flawUnless, isTruthy, Document.isTruthy]

lemma flaws_wait {p : Part} {fs : List Flaw} (h : p.durationFlaws = .ok fs) (timeout : ℤ) :
    flaws (variant "wait" [("condition", p), ("timeout_ms", plain (.int timeout))]) =
      .ok ((if timeout ≤ 0 then [.waitTimeout (.int timeout)] else []) ++ fs) := by
  have hread : flaws (variant "wait" [("condition", p), ("timeout_ms", plain (.int timeout))]) = (do
      let low ← (plain (.int timeout)).flawBelow false .waitTimeout
      return low ++ (← p.durationFlaws)) := rfl
  rw [hread, flawBelow_positive, h]
  rfl

lemma flaws_select {fs : List (String × Part)} {n : ℤ} (h : field fs "index" = plain (.int n)) :
    flaws (variant "select" fs) = .ok (if n < 0 then [.selectIndex (.int n)] else []) := by
  rw [flaws, selectFlaws, h]
  simp [isNull, flawBelow_natural]

end Part

lemma WaitCondition.part_document (c : WaitCondition) :
    ∃ p, Sketch.part c.document = .ok p ∧ p.durationFlaws = .ok c.flaws := by
  cases c with
  | duration ms => exact ⟨_, rfl, Part.flawBelow_positive .waitDuration ms⟩
  | _ => exact ⟨_, rfl, rfl⟩

lemma Action.part_document (a : Action) :
    ∃ p, Sketch.part a.document = .ok p ∧ p.flaws = .ok a.flaws := by
  cases a with
  | click target button count => cases button <;> exact ⟨_, rfl, rfl⟩
  | type target text clearFirst pressEnter =>
    exact ⟨_, rfl, congrArg Except.ok (Part.flawUnless_text .noText text)⟩
  | hover | goBack | goForward | refresh | uploadFile => exact ⟨_, rfl, rfl⟩
  | scroll direction amount target =>
    have hamount := Part.flawBelow_positive .scrollAmount amount
    cases direction <;> cases target <;> exact ⟨_, rfl, hamount⟩
  | wait condition timeout =>
    obtain ⟨p, hp, hflaws⟩ := condition.part_document
    refine ⟨.variant "wait" [("condition", p), ("timeout_ms", .plain (.int timeout))], ?_, ?_⟩
    · cases condition <;> cases hp <;> rfl
    · exact Part.flaws_wait hflaws timeout
  | pressKey key m =>
    obtain ⟨a, b, c, d⟩ := m
    cases a <;> cases b <;> cases c <;> cases d <;> exact ⟨_, rfl, rfl⟩
  | navigate url =>
    exact ⟨_, rfl, congrArg Except.ok (Part.flawUnless_text .noUrl url)⟩
  | assert target assertion => cases assertion <;> exact ⟨_, rfl, rfl⟩
  | select target value label index =>
    cases index with
    | none => cases value <;> cases label <;> exact ⟨_, rfl, rfl⟩
    | some n => cases value <;> cases label <;> exact ⟨_, rfl, Part.flaws_select rfl⟩
  | screenshot name fullPage =>
    exact ⟨_, rfl, congrArg Except.ok (Part.flawUnless_text .noScreenshotName name)⟩

lemma Step.part_document (s : Step) :
    ∃ k, Sketch.Step.ofDocument s.document = .ok k ∧ k.flaws = .ok s.flaws := by
  obtain ⟨p, hp, hflaws⟩ := s.action.part_document
  refine ⟨⟨.text s.id, .text s.description, p, Document.ofOption .text s.expected,
    Document.ofOption .int s.timeout, .int s.retries, .bool s.continueOnFailure⟩, ?_, ?_⟩
  · have hread : Sketch.Step.ofDocument s.document = (do
        let action ← Sketch.part s.action.document
        return ⟨.text s.id, .text s.description, action, Document.ofOption .text s.expected,
          Document.ofOption .int s.timeout, .int s.retries, .bool s.continueOnFailure⟩) := rfl
    rw [hread, hp]
    rfl
  · rw [Sketch.Step.flaws, flaws]
    cases s.timeout with
    | none =>
      dsimp only [Document.ofOption]
      rw [Part.flawBelow_natural, hflaws]
      rfl
    | some ms =>
      dsimp only [Document.ofOption]
      rw [Part.flawBelow_natural, Part.flawBelow_positive, hflaws]
      rfl

lemma Step.parts_documents (ss : List Step) :
    ∃ ks, (ss.map Step.document).mapM Sketch.Step.ofDocument = .ok ks ∧ ks.length = ss.length ∧
      ∀ i, Sketch.Step.findings i ks = .ok (findings i ss) := by
  induction ss with
  | nil => exact ⟨[], rfl, rfl, fun _ => rfl⟩
  | cons s ss ih =>
    obtain ⟨k, hk, hflaws⟩ := s.part_document
    obtain ⟨ks, hks, hlength, hfindings⟩ := ih
    refine ⟨k :: ks, ?_, by simp [hlength], fun i => ?_⟩
    · rw [List.map_cons, List.mapM_cons, hk, hks]
      rfl
    · rw [Sketch.Step.findings, hflaws, hfindings, findings]
      rfl

lemma Part.setOf_texts (ss : List String) :
    ∃ p, Part.setOf ((ss.map Document.text).map Part.plain) = .ok p := by
  have hnone : ((ss.map Document.text).map Part.plain).findSome? unhashable? = none := by
    simp [List.findSome?_eq_none_iff, unhashable?]
  exact ⟨_, by rw [setOf, hnone]⟩

lemma Scenario.verdict_sketch (s : Scenario) :
    ∃ k, Sketch.ofDocument s.document = .ok k ∧ k.verdict = .ok s.verdict := by
  obtain ⟨ks, hks, hlength, hfindings⟩ := Step.parts_documents s.steps
  obtain ⟨tags, htags⟩ := Part.setOf_texts s.tags.toList
  refine ⟨⟨.text s.id, .text s.name, .text s.description, .text s.startUrl, ks, tags, s.priority⟩,
    ?_, ?_⟩
  · have hread : Sketch.ofDocument s.document = (do
        let steps ← (s.steps.map Step.document).mapM Sketch.Step.ofDocument
        let tags ← Part.setOf ((s.tags.toList.map Document.text).map Part.plain)
        let priority ←
          misnamed (Misnomer.check Priority.named "Priority" (.text s.priority.spelling))
        return ⟨.text s.id, .text s.name, .text s.description, .text s.startUrl, steps, tags,
          priority⟩) := rfl
    rw [hread, hks, htags]
    cases s.priority <;> rfl
  · have hempty : ks.isEmpty = s.steps.isEmpty := by
      rw [Bool.eq_iff_iff, List.isEmpty_iff_length_eq_zero, List.isEmpty_iff_length_eq_zero, hlength]
    have hurl : (Document.text s.startUrl).isTruthy = !s.startUrl.isEmpty := rfl
    rw [Sketch.verdict, hfindings, hempty, hurl, verdict, findings]
    cases s.startUrl.isEmpty <;> rfl

/-- What a verdict on a scenario says: whether it passes, and each of its flaws once, where it is. -/
structure Verdict.Exact (v : Verdict) (s : Scenario) : Prop where
  valid : v.valid = true ↔ s.Passes
  errors : ∀ p f, ⟨p, f⟩ ∈ v.errors ↔ f.rule ∉ Rule.soft ∧ s.Has p f
  warnings : ∀ p f, ⟨p, f⟩ ∈ v.warnings ↔ f.rule ∈ Rule.soft ∧ s.Has p f
  severity_error : ∀ f ∈ v.errors, f.severity = .error
  severity_warning : ∀ f ∈ v.warnings, f.severity = .warning
  once : (v.findings.map Finding.place).Nodup
  path : ∀ f ∈ v.findings, ∀ i ∈ f.step, f.path = "steps[" ++ Decimal.text i ++ "]" ++ f.flaw.field

lemma Scenario.exact_verdict (s : Scenario) : s.verdict.Exact s where
  valid := s.valid_iff
  errors _ _ := Verdict.mem_errors
  warnings _ _ := Verdict.mem_warnings
  severity_error f hf := by simpa using (List.mem_filter.mp hf).2
  severity_warning f hf := by simpa using (List.mem_filter.mp hf).2
  once := ((Verdict.perm_findings s.findings).map _).nodup_iff.mpr s.nodup_findings
  path f _ i hi := by rw [Finding.path, Option.mem_def.mp hi]

/-- The verdict on a scenario, also on one that is put together by hand, is exact. What it says of the
steps is said of each part of them alike. It cannot be told only if a number that it has to tell of has
too many digits. -/
theorem Scenario.verdict_exact (s : Scenario) :
    s.verdict.Exact s ∧
    (∃ k, Sketch.ofDocument s.document = .ok k ∧ k.verdict = .ok s.verdict) ∧
    (∀ xs ys,
      Verdict.onSteps { s with steps := xs ++ ys }.verdict.errors =
        Verdict.onSteps { s with steps := xs }.verdict.errors ++
          (Verdict.onSteps { s with steps := ys }.verdict.errors).map (Finding.shift xs.length) ∧
      Verdict.onSteps { s with steps := xs ++ ys }.verdict.warnings =
        Verdict.onSteps { s with steps := xs }.verdict.warnings ++
          (Verdict.onSteps { s with steps := ys }.verdict.warnings).map (Finding.shift xs.length)) ∧
    (s.verdict.isWritable = true ↔
      ∀ p f n, s.Has p f → f.subject? = some (.int n) → Decimal.isShort n = true) := by
  refine ⟨s.exact_verdict, s.verdict_sketch, fun xs ys => ⟨?_, ?_⟩, Verdict.isWritable_iff s⟩
  · exact Verdict.onSteps_append s xs ys .error
  · exact Verdict.onSteps_append s xs ys .warning

def Scenario.waiting (ms : ℤ) : Scenario where
  id := "s"
  name := "Waiting"
  description := ""
  startUrl := "https://example.org"
  steps := [{
    id := "step_0"
    description := "Wait"
    action := .wait (.elementVisible 1) ms
    expected := none
    timeout := none
    retries := 0
    continueOnFailure := false }]
  tags := .empty
  priority := .medium

lemma Scenario.has_waiting {ms : ℤ} (h : ms ≤ 0) :
    (waiting ms).Has (some 0) (.waitTimeout (.int ms)) :=
  .step rfl (.action (.waitTimeout _ h))

theorem Scenario.verdict_untold :
    ¬(waiting (-10 ^ Decimal.maxDigits)).Passes ∧
      (waiting (-10 ^ Decimal.maxDigits)).verdict.isWritable = false := by
  have hnegative : -10 ^ Decimal.maxDigits ≤ (0 : ℤ) :=
    Int.neg_nonpos_of_nonneg (Int.pow_nonneg (by decide))
  have hlong : Decimal.isShort (-10 ^ Decimal.maxDigits) ≠ true := by
    have hten : (10 : ℤ).natAbs = 10 := rfl
    rw [Ne, Decimal.isShort_iff, Int.natAbs_neg, Int.natAbs_pow, hten]
    exact lt_irrefl _
  generalize -10 ^ Decimal.maxDigits = ms at hnegative hlong
  constructor
  · intro hpasses
    have hwait := (hpasses.steps _ (List.mem_singleton_self _)).action.1
    exact Int.not_lt.mpr hnegative hwait
  · rw [← Bool.not_eq_true, Verdict.isWritable_iff]
    exact fun hshort => hlong (hshort _ _ _ (has_waiting hnegative) rfl)

end ScenarioScript
