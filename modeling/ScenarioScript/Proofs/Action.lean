import ScenarioScript.Proofs.Arguments.Named
import ScenarioScript.Proofs.Scenario.WellFormed

namespace ScenarioScript

lemma Token.Tidy.target_nonneg {t : Token} (ht : t.Tidy) (hk : t.kind = .targetId) {n : ℤ}
    (h : Decimal.read? t.text = some n) : 0 ≤ n := by
  obtain ⟨hne, hd⟩ := ht.target hk
  rw [Decimal.read?_of_isDigit hd hne] at h
  split at h
  · obtain rfl := Option.some.inj h
    exact Int.natCast_nonneg _
  · simp at h

namespace Action

variable {settings : Settings} {args : List Token} {a : Action}

lemma wellFormed_of_named (hargs : ∀ t ∈ args, t.Tidy) (hnamed : a.Named settings args)
    (ha : a.Coherent) : a.WellFormed settings := by
  refine ⟨fun n hn => ?_, ha, ?_⟩
  · obtain ⟨u, hu, hk, hread | ⟨-, rfl, -⟩⟩ := hnamed.targets n hn
    · exact (hargs u hu).target_nonneg hk hread
    · decide
  · by_cases hname : ∃ fullPage, a = .screenshot settings.screenshotName fullPage
    · exact .inr hname
    · refine .inl fun s hs => ?_
      obtain ⟨u, hu, hk, rfl⟩ := (hnamed.texts s hs).resolve_right fun h => hname h.2
      exact (hargs u hu).string hk

lemma wellFormed_of_ofSpan {head : Token} (hargs : ∀ t ∈ args, t.Tidy)
    (h : ofSpan settings head args = .ok a) : a.WellFormed settings := by
  obtain ⟨k, -, hk⟩ := ofSpan_eq_ok_iff.mp h
  have hgathers := gathers_of_ofArguments? hk
  exact wellFormed_of_named hargs hgathers.named hgathers.coherent

end Action

end ScenarioScript
