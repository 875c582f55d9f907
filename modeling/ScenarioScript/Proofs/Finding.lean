import Mathlib.Data.Int.Notation
import Mathlib.Data.Nat.Notation
import Mathlib.Data.List.Basic
import ScenarioScript.Finding

namespace ScenarioScript

def Action.Passes : Action → Prop
  | wait condition timeout => 0 < timeout ∧ ∀ ms, condition = .duration ms → 0 < ms
  | scroll _ amount _ => 0 < amount
  | navigate url => url ≠ ""
  | select _ _ _ index => ∀ n ∈ index, 0 ≤ n
  | _ => True

structure Step.Passes (s : Step) : Prop where
  timeout : ∀ ms ∈ s.timeout, 0 < ms
  retries : 0 ≤ s.retries
  action : s.action.Passes

structure Scenario.Passes (s : Scenario) : Prop where
  name : Text.trim s.name.toList ≠ []
  steps : ∀ t ∈ s.steps, t.Passes

def Flaw.Spared (fs : List Flaw) : Prop :=
  ∀ f ∈ fs, f.severity ≠ .error

namespace Flaw

lemma spared_append {fs gs : List Flaw} : Spared (fs ++ gs) ↔ Spared fs ∧ Spared gs :=
  List.forall_mem_append

lemma spared_ite {p : Prop} [Decidable p] {f : Flaw} (hf : f.severity = .error) :
    Spared (if p then [f] else []) ↔ ¬p := by
  by_cases hp : p <;> simp [Spared, hp, hf]

lemma spared_warning {p : Prop} [Decidable p] {f : Flaw} (hf : f.severity = .warning) :
    Spared (if p then [f] else []) := by
  by_cases hp : p <;> simp [Spared, hp, hf]

end Flaw

open Flaw

lemma WaitCondition.spared_iff (c : WaitCondition) :
    Spared c.flaws ↔ ∀ ms, c = .duration ms → 0 < ms := by
  cases c with
  | duration ms =>
    rw [flaws, spared_ite rfl, Int.not_le]
    constructor
    · intro h n hn
      rwa [← WaitCondition.duration.inj hn]
    · intro h
      exact h ms rfl
  | _ => simp [flaws, Spared]

lemma Action.spared_iff (a : Action) : Spared a.flaws ↔ a.Passes := by
  cases a with
  | wait condition timeout =>
    rw [flaws, spared_append, spared_ite rfl, Int.not_le, WaitCondition.spared_iff, Passes]
  | scroll direction amount target => rw [flaws, spared_ite rfl, Int.not_le, Passes]
  | navigate url => rw [flaws, spared_ite rfl, Passes, String.isEmpty_iff]
  | select target value label index =>
    cases index with
    | some n =>
      simp only [flaws, spared_ite (f := .selectIndex (.int n)) rfl, Passes, Int.not_lt]
      simp
    | none =>
      have hspared := spared_warning (p := (value.isNone && label.isNone) = true) (f := .noOption) rfl
      simpa [flaws, Passes] using hspared
  | type target text clearFirst pressEnter =>
    exact iff_of_true (spared_warning rfl) trivial
  | screenshot name fullPage => exact iff_of_true (spared_warning rfl) trivial
  | click | hover | pressKey | goBack | goForward | refresh | assert | uploadFile =>
    exact iff_of_true (by simp [flaws, Spared]) trivial

lemma Step.spared_iff (s : Step) : Spared s.flaws ↔ s.Passes := by
  rw [flaws, spared_append, spared_append, spared_ite rfl, Int.not_lt, Action.spared_iff]
  constructor
  · rintro ⟨⟨htimeout, hretries⟩, haction⟩
    refine ⟨fun ms hms => ?_, hretries, haction⟩
    rw [Option.mem_def.mp hms] at htimeout
    have hspared : Spared (if ms ≤ 0 then [.stepTimeout (.int ms)] else []) := htimeout
    exact Int.not_le.mp ((spared_ite rfl).mp hspared)
  · intro h
    refine ⟨⟨?_, h.retries⟩, h.action⟩
    cases htimeout : s.timeout with
    | none => exact List.forall_mem_nil _
    | some ms => exact (spared_ite rfl).mpr (Int.not_le.mpr (h.timeout ms htimeout))

lemma Step.forall_mem_findings {P : Flaw → Prop} (i : ℕ) (ss : List Step) :
    (∀ f ∈ findings i ss, P f.flaw) ↔ ∀ s ∈ ss, ∀ f ∈ s.flaws, P f := by
  induction ss generalizing i with
  | nil => simp [findings]
  | cons s ss ih =>
    rw [findings, List.forall_mem_append, ih, List.forall_mem_cons, List.forall_mem_map]

lemma Verdict.valid_ofFindings (fs : List Finding) :
    (ofFindings fs).valid = true ↔ ∀ f ∈ fs, f.flaw.severity ≠ .error := by
  rw [valid, List.isEmpty_iff, ofFindings, List.filter_eq_nil_iff]
  simp only [decide_eq_true_eq]
  rfl

lemma Scenario.valid_iff (s : Scenario) : s.verdict.valid = true ↔ s.Passes := by
  have hsteps : (∀ f ∈ Step.findings 0 s.steps, f.flaw.severity ≠ .error) ↔
      ∀ t ∈ s.steps, t.Passes := by
    rw [Step.forall_mem_findings (P := fun f => f.severity ≠ .error)]
    exact forall₂_congr fun t _ => t.spared_iff
  rw [verdict, Verdict.valid_ofFindings, findings]
  simp only [List.forall_mem_append, hsteps]
  constructor
  · rintro ⟨⟨⟨hname, -⟩, hsteps⟩, -⟩
    exact ⟨fun ht => hname ⟨none, .blankName⟩ (by simp [ht]) rfl, hsteps⟩
  · rintro ⟨hname, hsteps⟩
    refine ⟨⟨⟨by simp [hname], ?_⟩, hsteps⟩, ?_⟩
    · by_cases hurl : s.startUrl.isEmpty = true <;> simp [hurl, severity]
    · by_cases hempty : s.steps.isEmpty = true <;> simp [hempty, severity]

end ScenarioScript
