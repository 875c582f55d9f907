import Mathlib.Data.List.Nodup
import Mathlib.Data.Prod.Basic
import ScenarioScript.Proofs.Finding

/-! The verdict on a scenario tells all flaws that it has and no others, each of them once and with the
position of its step. -/

namespace ScenarioScript

inductive Rule
  | name | startUrl | steps | stepTimeout | retries | waitTimeout | waitDuration | scrollAmount | url
  | selectIndex | option | text | screenshotName
  deriving DecidableEq

def Rule.soft : List Rule :=
  [startUrl, steps, option, text, screenshotName]

namespace Flaw

def rule : Flaw → Rule
  | blankName => .name
  | noStartUrl => .startUrl
  | noSteps => .steps
  | stepTimeout _ => .stepTimeout
  | retries _ => .retries
  | waitTimeout _ => .waitTimeout
  | waitDuration _ => .waitDuration
  | scrollAmount _ => .scrollAmount
  | noUrl => .url
  | selectIndex _ => .selectIndex
  | noOption => .option
  | noText => .text
  | noScreenshotName => .screenshotName

lemma severity_eq_error {f : Flaw} : f.severity = .error ↔ f.rule ∉ Rule.soft := by
  cases f <;> simp [severity, rule, Rule.soft]

lemma severity_eq_warning {f : Flaw} : f.severity = .warning ↔ f.rule ∈ Rule.soft := by
  cases f <;> simp [severity, rule, Rule.soft]

lemma mem_ite {p : Prop} [Decidable p] {f g : Flaw} : f ∈ (if p then [g] else []) ↔ p ∧ f = g := by
  rw [List.mem_ite_nil_right, List.mem_singleton]

lemma nodup_ite {p : Prop} [Decidable p] {f : Flaw} :
    ((if p then [f] else []).map rule).Nodup := by
  split <;> simp

end Flaw

inductive Action.Has : Action → Flaw → Prop
  | waitTimeout (condition : WaitCondition) {timeout : ℤ} (h : timeout ≤ 0) :
    Has (wait condition timeout) (.waitTimeout (.int timeout))
  | waitDuration {ms : ℤ} (timeout : ℤ) (h : ms ≤ 0) :
    Has (wait (.duration ms) timeout) (.waitDuration (.int ms))
  | scrollAmount (direction : ScrollDirection) {amount : ℤ} (target : Option ℤ) (h : amount ≤ 0) :
    Has (scroll direction amount target) (.scrollAmount (.int amount))
  | noUrl : Has (navigate "") .noUrl
  | selectIndex (target : ℤ) (value label : Option String) {index : ℤ} (h : index < 0) :
    Has (select target value label (some index)) (.selectIndex (.int index))
  | noOption (target : ℤ) : Has (select target none none none) .noOption
  | noText (target : ℤ) (clearFirst pressEnter : Bool) :
    Has (type target "" clearFirst pressEnter) .noText
  | noScreenshotName (fullPage : Bool) : Has (screenshot "" fullPage) .noScreenshotName

inductive Step.Has (s : Step) : Flaw → Prop
  | stepTimeout {ms : ℤ} (hms : s.timeout = some ms) (h : ms ≤ 0) : Has s (.stepTimeout (.int ms))
  | retries (h : s.retries < 0) : Has s (.retries (.int s.retries))
  | action {f : Flaw} (h : s.action.Has f) : Has s f

inductive Scenario.Has (s : Scenario) : Option ℕ → Flaw → Prop
  | blankName (h : Text.trim s.name.toList = []) : Has s none .blankName
  | noStartUrl (h : s.startUrl = "") : Has s none .noStartUrl
  | noSteps (h : s.steps = []) : Has s none .noSteps
  | step {i : ℕ} {t : Step} {f : Flaw} (ht : s.steps[i]? = some t) (h : t.Has f) : Has s (some i) f

lemma Action.has_of_mem_flaws {a : Action} {f : Flaw} (h : f ∈ a.flaws) : a.Has f := by
  cases a with
  | wait condition timeout =>
    rcases List.mem_append.mp h with h | h
    · obtain ⟨htimeout, rfl⟩ := Flaw.mem_ite.mp h
      exact .waitTimeout condition htimeout
    · cases condition with
      | duration ms =>
        obtain ⟨hms, rfl⟩ := Flaw.mem_ite.mp h
        exact .waitDuration timeout hms
      | _ => simp [WaitCondition.flaws] at h
  | scroll direction amount target =>
    obtain ⟨hamount, rfl⟩ := Flaw.mem_ite.mp h
    exact .scrollAmount direction target hamount
  | navigate url =>
    obtain ⟨hurl, rfl⟩ := Flaw.mem_ite.mp h
    exact String.isEmpty_iff.mp hurl ▸ .noUrl
  | select target value label index =>
    cases index with
    | some index =>
      obtain ⟨hindex, rfl⟩ := Flaw.mem_ite.mp h
      exact .selectIndex target value label hindex
    | none =>
      obtain ⟨hoption, rfl⟩ := Flaw.mem_ite.mp h
      obtain ⟨rfl, rfl⟩ : value = none ∧ label = none := by simpa using hoption
      exact .noOption target
  | type target text clearFirst pressEnter =>
    obtain ⟨htext, rfl⟩ := Flaw.mem_ite.mp h
    exact String.isEmpty_iff.mp htext ▸ .noText target clearFirst pressEnter
  | screenshot name fullPage =>
    obtain ⟨hname, rfl⟩ := Flaw.mem_ite.mp h
    exact String.isEmpty_iff.mp hname ▸ .noScreenshotName fullPage
  | click | hover | pressKey | goBack | goForward | refresh | assert | uploadFile =>
    exact absurd h (List.not_mem_nil)

lemma Action.mem_flaws {a : Action} {f : Flaw} : f ∈ a.flaws ↔ a.Has f := by
  refine ⟨has_of_mem_flaws, fun h => ?_⟩
  cases h <;> simp_all [flaws, WaitCondition.flaws]

lemma Step.mem_flaws {s : Step} {f : Flaw} : f ∈ s.flaws ↔ s.Has f := by
  rw [flaws, List.mem_append, List.mem_append, Flaw.mem_ite, Action.mem_flaws]
  constructor
  · rintro ((h | ⟨h, rfl⟩) | h)
    · cases htimeout : s.timeout with
      | none => simp [htimeout] at h
      | some ms =>
        rw [htimeout] at h
        obtain ⟨hms, rfl⟩ := Flaw.mem_ite.mp h
        exact .stepTimeout htimeout hms
    · exact .retries h
    · exact .action h
  · rintro (⟨htimeout, hms⟩ | h | h)
    · simp [htimeout, hms]
    · exact .inl (.inr ⟨h, rfl⟩)
    · exact .inr h

lemma Action.nodup_flaws (a : Action) : (a.flaws.map Flaw.rule).Nodup := by
  cases a with
  | wait condition timeout =>
    cases condition <;> simp only [flaws, WaitCondition.flaws] <;> split_ifs <;> simp [Flaw.rule]
  | select target value label index => cases index <;> exact Flaw.nodup_ite
  | scroll | navigate | type | screenshot => exact Flaw.nodup_ite
  | click | hover | pressKey | goBack | goForward | refresh | assert | uploadFile => exact .nil

lemma Action.Has.rule_ne {a : Action} {f : Flaw} (h : a.Has f) :
    f.rule ≠ .stepTimeout ∧ f.rule ≠ .retries := by
  cases h <;> simp [Flaw.rule]

lemma Action.Has.subject {a : Action} {f : Flaw} (h : a.Has f) :
    ∀ d ∈ f.subject?, ∃ n, d = .int n := by
  cases h <;> simp [Flaw.subject?]

lemma Step.nodup_flaws (s : Step) : (s.flaws.map Flaw.rule).Nodup := by
  have haction := s.action.nodup_flaws
  have hstep : ∀ f ∈ s.action.flaws, f.rule ≠ .stepTimeout ∧ f.rule ≠ .retries :=
    fun f hf => (Action.mem_flaws.mp hf).rule_ne
  rw [flaws]
  cases s.timeout <;> dsimp only <;> split_ifs <;> simp_all [Flaw.rule]

def Finding.place (f : Finding) : Option ℕ × Rule :=
  (f.step, f.flaw.rule)

def Finding.shift (k : ℕ) (f : Finding) : Finding :=
  { f with step := f.step.map (· + k) }

namespace Step

lemma findings_append (i : ℕ) (ss ts : List Step) :
    findings i (ss ++ ts) = findings i ss ++ findings (i + ss.length) ts := by
  induction ss generalizing i with
  | nil => rfl
  | cons s ss ih =>
    rw [List.cons_append, findings, ih, findings, List.append_assoc, List.length_cons]
    congr 3
    omega

lemma findings_shift (i k : ℕ) (ss : List Step) :
    findings (i + k) ss = (findings i ss).map (Finding.shift k) := by
  induction ss generalizing i with
  | nil => rfl
  | cons s ss ih =>
    have hnext : i + k + 1 = i + 1 + k := by omega
    rw [findings, findings, hnext, ih, List.map_append, List.map_map]
    rfl

lemma mem_findings {i : ℕ} {ss : List Step} {p : Option ℕ} {f : Flaw} :
    ⟨p, f⟩ ∈ findings i ss ↔ ∃ j t, p = some (i + j) ∧ ss[j]? = some t ∧ t.Has f := by
  induction ss generalizing i with
  | nil => simp [findings]
  | cons s ss ih =>
    have hhead : ⟨p, f⟩ ∈ s.flaws.map (⟨some i, ·⟩ : Flaw → Finding) ↔ p = some i ∧ s.Has f := by
      simp [mem_flaws, eq_comm, and_comm]
    rw [findings, List.mem_append, hhead, ih]
    constructor
    · rintro (⟨hp, hs⟩ | ⟨j, t, hp, ht, hf⟩)
      · exact ⟨0, s, hp, rfl, hs⟩
      · exact ⟨j + 1, t, by rw [hp, Nat.add_right_comm, Nat.add_assoc], ht, hf⟩
    · rintro ⟨_ | j, t, hp, ht, hf⟩
      · obtain rfl : s = t := by simpa using ht
        exact .inl ⟨hp, hf⟩
      · exact .inr ⟨j, t, by rw [hp, Nat.add_right_comm, Nat.add_assoc], ht, hf⟩

lemma nodup_findings (i : ℕ) (ss : List Step) : ((findings i ss).map Finding.place).Nodup := by
  induction ss generalizing i with
  | nil => exact .nil
  | cons s ss ih =>
    have hhead : (s.flaws.map (⟨some i, ·⟩ : Flaw → Finding)).map Finding.place =
        (s.flaws.map Flaw.rule).map (some i, ·) := by
      rw [List.map_map, List.map_map]
      rfl
    rw [findings, List.map_append, hhead, List.nodup_append]
    refine ⟨s.nodup_flaws.map (Prod.mk_right_injective _), ih (i + 1), ?_⟩
    intro a ha b hb
    obtain ⟨r, -, rfl⟩ := List.mem_map.mp ha
    obtain ⟨⟨p, f⟩, hf, rfl⟩ := List.mem_map.mp hb
    obtain ⟨j, t, rfl, -, -⟩ := mem_findings.mp hf
    simp [Finding.place]
    omega

end Step

namespace Scenario

lemma mem_findings {s : Scenario} {p : Option ℕ} {f : Flaw} : ⟨p, f⟩ ∈ s.findings ↔ s.Has p f := by
  have hite {P : Prop} [Decidable P] {g : Flaw} :
      (⟨p, f⟩ : Finding) ∈ (if P then [⟨none, g⟩] else []) ↔ P ∧ p = none ∧ f = g := by
    rw [List.mem_ite_nil_right, List.mem_singleton, Finding.mk.injEq]
  rw [findings, List.mem_append, List.mem_append, List.mem_append, hite, hite, hite,
    Step.mem_findings]
  constructor
  · rintro (((⟨h, rfl, rfl⟩ | ⟨h, rfl, rfl⟩) | ⟨j, t, rfl, ht, hf⟩) | ⟨h, rfl, rfl⟩)
    · exact .blankName h
    · exact .noStartUrl (String.isEmpty_iff.mp h)
    · exact .step (by rwa [Nat.zero_add]) hf
    · exact .noSteps (List.isEmpty_iff.mp h)
  · rintro (h | h | h | ⟨ht, hf⟩)
    · exact .inl (.inl (.inl ⟨h, rfl, rfl⟩))
    · exact .inl (.inl (.inr ⟨String.isEmpty_iff.mpr h, rfl, rfl⟩))
    · exact .inr ⟨List.isEmpty_iff.mpr h, rfl, rfl⟩
    · exact .inl (.inr ⟨_, _, by rw [Nat.zero_add], ht, hf⟩)

lemma nodup_findings (s : Scenario) : (s.findings.map Finding.place).Nodup := by
  have hsteps := Step.nodup_findings 0 s.steps
  have hsome : ∀ f ∈ Step.findings 0 s.steps, f.step ≠ none := by
    rintro ⟨p, f⟩ hf
    obtain ⟨j, t, rfl, -, -⟩ := Step.mem_findings.mp hf
    simp
  rw [findings]
  split_ifs <;> simp_all [List.nodup_append, Finding.place, Flaw.rule]

lemma Has.subject {s : Scenario} {p : Option ℕ} {f : Flaw} (h : s.Has p f) :
    ∀ d ∈ f.subject?, ∃ n, d = .int n := by
  rcases h with _ | _ | _ | ⟨-, _ | _ | h⟩
  case step.action => exact h.subject
  all_goals simp [Flaw.subject?]

end Scenario

namespace Verdict

lemma mem_errors {s : Scenario} {p : Option ℕ} {f : Flaw} :
    ⟨p, f⟩ ∈ s.verdict.errors ↔ f.rule ∉ Rule.soft ∧ s.Has p f := by
  rw [Scenario.verdict, ofFindings, List.mem_filter, decide_eq_true_eq, Finding.severity,
    Flaw.severity_eq_error, Scenario.mem_findings, and_comm]

lemma mem_warnings {s : Scenario} {p : Option ℕ} {f : Flaw} :
    ⟨p, f⟩ ∈ s.verdict.warnings ↔ f.rule ∈ Rule.soft ∧ s.Has p f := by
  rw [Scenario.verdict, ofFindings, List.mem_filter, decide_eq_true_eq, Finding.severity,
    Flaw.severity_eq_warning, Scenario.mem_findings, and_comm]

lemma perm_findings (fs : List Finding) : (ofFindings fs).findings.Perm fs := by
  have hwarning : (fun f : Finding => decide (f.severity = .warning)) =
      fun f => !decide (f.severity = .error) := by
    funext f
    cases f.severity <;> rfl
  rw [findings, ofFindings, hwarning]
  exact List.filter_append_perm _ fs

def onSteps (fs : List Finding) : List Finding :=
  fs.filter (·.step.isSome)

lemma onSteps_findings (s : Scenario) : onSteps s.findings = Step.findings 0 s.steps := by
  have hsteps : onSteps (Step.findings 0 s.steps) = Step.findings 0 s.steps := by
    refine List.filter_eq_self.mpr ?_
    rintro ⟨p, f⟩ hf
    obtain ⟨j, t, rfl, -, -⟩ := Step.mem_findings.mp hf
    rfl
  rw [onSteps] at hsteps
  rw [onSteps, Scenario.findings, List.filter_append, List.filter_append, List.filter_append, hsteps]
  split_ifs <;> simp

lemma onSteps_append (s : Scenario) (xs ys : List Step) (severity : Severity) :
    onSteps ({ s with steps := xs ++ ys }.findings.filter (·.severity = severity)) =
      onSteps ({ s with steps := xs }.findings.filter (·.severity = severity)) ++
        (onSteps ({ s with steps := ys }.findings.filter (·.severity = severity))).map
          (Finding.shift xs.length) := by
  have hcomm (t : Scenario) : onSteps (t.findings.filter (·.severity = severity)) =
      (Step.findings 0 t.steps).filter (·.severity = severity) := by
    rw [onSteps, List.filter_comm, ← onSteps, onSteps_findings]
  have hshift := Step.findings_shift 0 xs.length ys
  rw [hcomm, hcomm, hcomm, Step.findings_append, hshift, List.filter_append, List.filter_map]
  rfl

lemma isWritable_iff (s : Scenario) : s.verdict.isWritable = true ↔
    ∀ p f n, s.Has p f → f.subject? = some (.int n) → Decimal.isShort n = true := by
  rw [isWritable, List.all_eq_true]
  constructor
  · intro h p f n hf hn
    have hmem := (perm_findings s.findings).mem_iff.mpr (Scenario.mem_findings.mpr hf)
    simpa [hn, Document.isWritable] using h _ hmem
  · rintro h ⟨p, f⟩ hmem
    have hf := Scenario.mem_findings.mp ((perm_findings s.findings).mem_iff.mp hmem)
    cases hd : f.subject? with
    | none => rfl
    | some d =>
      obtain ⟨n, rfl⟩ := hf.subject d hd
      exact h p f n hf hd

end Verdict

end ScenarioScript
