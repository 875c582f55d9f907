import ScenarioScript.Proofs.Document.Json
import ScenarioScript.Proofs.Document.Model
import ScenarioScript.Report

namespace ScenarioScript

open Document

lemma Document.hasDistinctKeys_list_map {α : Type} {f : α → Document} {as : List α}
    (h : ∀ a, (f a).HasDistinctKeys) : (list (as.map f)).HasDistinctKeys :=
  haveDistinctKeys_iff.mpr fun d hd => by
    obtain ⟨a, -, rfl⟩ := List.mem_map.mp hd
    exact h a

lemma Verdict.hasDistinctKeys_document (v : Verdict) : v.document.HasDistinctKeys := by
  have hfinding (f : Finding) : f.document.HasDistinctKeys := by
    simp [Finding.document, HasDistinctKeys, FieldsHaveDistinctKeys]
  have hfindings (fs : List Finding) : HaveDistinctKeys (fs.map Finding.document) :=
    hasDistinctKeys_list_map hfinding
  simp [document, HasDistinctKeys, FieldsHaveDistinctKeys, hfindings]

namespace Report

variable {r : Report}

lemma hasDistinctKeys_errorsDocument (r : Report) : r.errorsDocument.HasDistinctKeys :=
  hasDistinctKeys_list_map fun e => by
    simp [Remark.document, HasDistinctKeys, FieldsHaveDistinctKeys]

lemma hasDistinctKeys_verdictDocument (r : Report) : r.verdictDocument.HasDistinctKeys :=
  hasDistinctKeys_ofOption fun v _ => v.hasDistinctKeys_document

lemma hasDistinctKeys_document (hname : r.name.HasDistinctKeys)
    (hscenario : r.scenarioDocument.HasDistinctKeys) : r.document.HasDistinctKeys := by
  have hsummary : r.summary.HasDistinctKeys := by
    simp [summary, HasDistinctKeys, FieldsHaveDistinctKeys, hname]
  simp [document, HasDistinctKeys, FieldsHaveDistinctKeys, hsummary, hscenario,
    r.hasDistinctKeys_errorsDocument, r.hasDistinctKeys_verdictDocument, hasDistinctKeys_texts]

lemma hasDistinctKeys_envelope (hscenario : r.scenarioDocument.HasDistinctKeys) (command : String)
    (reportPath : Option String) : (r.envelope command reportPath).HasDistinctKeys := by
  have herrors := r.hasDistinctKeys_errorsDocument
  have hverdict := r.hasDistinctKeys_verdictDocument
  have hwarnings := hasDistinctKeys_texts r.outcome.warnings
  unfold envelope
  split
  · split <;>
      simp [HasDistinctKeys, FieldsHaveDistinctKeys, hscenario, herrors, hverdict, hwarnings]
  · simp [HasDistinctKeys, FieldsHaveDistinctKeys, hscenario, herrors, hverdict, hwarnings]

/-- The report on any outcome, and its envelope for any command, are what a reader of their JSON
text gets, in either layout; in the compact one the text is a single line. -/
theorem read_json_eq_self (source : String) (success : Bool) (scenario : Option Scenario)
    (errors : List Remark) (warnings : List String) (verdict : Option Verdict) (command : String)
    (reportPath : Option String) :
    let r : Report := ⟨source, ⟨success, scenario.map Scenario.subject, errors, warnings⟩, verdict⟩
    ∀ d ∈ [r.document, r.envelope command reportPath],
      (∀ pretty, ofJson? (d.json pretty) = some d) ∧
        ∀ c ∈ (d.json false).toList, 0x20 ≤ c.toNat := by
  intro r d hd
  have hname : r.name.HasDistinctKeys := by
    cases scenario <;> trivial
  have hscenario : r.scenarioDocument.HasDistinctKeys := by
    cases scenario with
    | none => trivial
    | some s => exact s.hasDistinctKeys_document
  have hdistinct : d.HasDistinctKeys := by
    simp only [List.mem_cons, List.not_mem_nil, or_false] at hd
    rcases hd with rfl | rfl
    · exact hasDistinctKeys_document hname hscenario
    · exact hasDistinctKeys_envelope hscenario command reportPath
  exact ⟨ofJson?_json hdistinct, space_le_of_mem_json⟩

end Report

end ScenarioScript
