import ScenarioScript.Proofs.Finding
import ScenarioScript.Proofs.Script.WellFormed

namespace ScenarioScript

namespace WaitCondition

def timeout? : WaitCondition → Option ℤ
  | pageLoaded timeout | networkIdle timeout => some timeout
  | _ => none

lemma Lasts.timeout_eq {c : WaitCondition} {timeout n : ℤ} (h : c.Lasts timeout)
    (hn : c.timeout? = some n) : n = timeout := by
  cases c with
  | pageLoaded | networkIdle =>
    obtain rfl := Option.some.inj hn
    exact h
  | _ => simp [timeout?] at hn

end WaitCondition

structure Step.Safe (s : Step) : Prop extends s.Passes where
  lasting : ∀ c ms, s.action = .wait c ms → ∀ n ∈ c.timeout?, 0 < n

structure Scenario.Safe (s : Scenario) : Prop where
  name : Text.trim s.name.toList ≠ []
  steps : ∀ t ∈ s.steps, t.Safe

lemma Step.Passes.safe {s : Step} (h : s.Passes) (hc : s.action.Coherent) : s.Safe := by
  refine ⟨h, fun c ms ha n hn => ?_⟩
  have haction : (Action.wait c ms).Passes := ha ▸ h.action
  have hlasts : c.Lasts ms := by
    have hcoherent : (Action.wait c ms).Coherent := ha ▸ hc
    exact hcoherent
  rw [hlasts.timeout_eq hn]
  exact haction.1

namespace Script

lemma wellFormed_of_mem_steps {settings : Settings} {text : String} {s : Scenario}
    (h : (read settings text).scenario = some s) : ∀ t ∈ s.steps, t.WellFormed settings := by
  have hd := Draft.wellFormed_addAll (Draft.wellFormed_empty : Draft.empty.WellFormed settings)
    (tidy_outline (Token.tidy_ofText (s := text)))
  rw [read_eq, ofTokens, Draft.scenario_reading] at h
  split at h
  · simp at h
  · obtain rfl := Option.some.inj h
    exact hd.steps

/-- Of the scenarios that are read, those pass that are safe: no timeout, duration or amount is zero
or less, those inside of conditions included, no count or index is negative, and the name and every
url say something. -/
theorem valid_iff_safe {settings : Settings} {text : String} {s : Scenario}
    (h : (read settings text).scenario = some s) : s.verdict.valid = true ↔ s.Safe := by
  rw [s.valid_iff]
  constructor
  · intro hpasses
    refine ⟨hpasses.name, fun t ht => ?_⟩
    have hcoherent := (wellFormed_of_mem_steps h t ht).action.coherent
    exact (hpasses.steps t ht).safe hcoherent
  · intro hsafe
    exact ⟨hsafe.name, fun t ht => (hsafe.steps t ht).toPasses⟩

def guarded : String :=
  "scenario \"S\" step \"a\" \x7b wait networkIdle timeout 7 timeout 1.5 retry -2 \x7d\n" ++
    "step \"b\" \x7b scroll 2.5 timeout 9 \x7d"

theorem valid_iff_safe_guarded :
    ∃ s, (read ⟨40, 30, "shot", "INFO"⟩ guarded).scenario = some s ∧ s.steps.length = 2 ∧
      s.verdict.valid = true ∧ s.Safe := by
  have h : (read ⟨40, 30, "shot", "INFO"⟩ guarded).scenario = some
      ⟨scenarioId, "S", "", "", [
        ⟨"step_0", "a", .wait (.networkIdle 40) 40, none, none, 0, false⟩,
        ⟨"step_1", "b", .scroll .down 30 none, none, some 9, 0, false⟩],
        .empty, .medium⟩ := by
    rw [read_eq]
    decide +kernel
  refine ⟨_, h, rfl, ?_, (valid_iff_safe h).mp ?_⟩ <;> decide +kernel

end Script

end ScenarioScript
