import ScenarioScript.Document.Model
import ScenarioScript.Proofs.Document

namespace ScenarioScript

open Document

lemma Document.hasDistinctKeys_texts (ss : List String) : (texts ss).HasDistinctKeys :=
  haveDistinctKeys_iff.mpr fun d hd => by
    obtain ⟨s, -, rfl⟩ := List.mem_map.mp hd
    trivial

lemma Document.hasDistinctKeys_ofOption {α : Type} {f : α → Document} {o : Option α}
    (h : ∀ a ∈ o, (f a).HasDistinctKeys) : (ofOption f o).HasDistinctKeys := by
  cases o with
  | none => trivial
  | some a => exact h a rfl

lemma WaitCondition.hasDistinctKeys_document (c : WaitCondition) : c.document.HasDistinctKeys := by
  cases c <;> simp [document, variant, HasDistinctKeys, FieldsHaveDistinctKeys]

lemma Assertion.hasDistinctKeys_document (a : Assertion) : a.document.HasDistinctKeys := by
  cases a <;> simp [document, variant, HasDistinctKeys, FieldsHaveDistinctKeys]

lemma Action.hasDistinctKeys_document (a : Action) : a.document.HasDistinctKeys := by
  have hint (o : Option Int) : (ofOption int o).HasDistinctKeys :=
    hasDistinctKeys_ofOption fun _ _ => trivial
  have htext (o : Option String) : (ofOption text o).HasDistinctKeys :=
    hasDistinctKeys_ofOption fun _ _ => trivial
  have hcondition := WaitCondition.hasDistinctKeys_document
  have hassertion := Assertion.hasDistinctKeys_document
  have hmodifiers (m : Modifiers) : m.document.HasDistinctKeys := hasDistinctKeys_texts _
  cases a <;>
    simp [document, variant, HasDistinctKeys, FieldsHaveDistinctKeys, hint, htext, hcondition,
      hassertion, hmodifiers]

lemma Step.hasDistinctKeys_document (s : Step) : s.document.HasDistinctKeys := by
  have hint : (ofOption int s.timeout).HasDistinctKeys :=
    hasDistinctKeys_ofOption fun _ _ => trivial
  have htext : (ofOption text s.expected).HasDistinctKeys :=
    hasDistinctKeys_ofOption fun _ _ => trivial
  simp [document, HasDistinctKeys, FieldsHaveDistinctKeys, hint, htext,
    s.action.hasDistinctKeys_document]

lemma Scenario.hasDistinctKeys_document (s : Scenario) : s.document.HasDistinctKeys := by
  have hsteps : HaveDistinctKeys (s.steps.map Step.document) :=
    haveDistinctKeys_iff.mpr fun d hd => by
      obtain ⟨step, -, rfl⟩ := List.mem_map.mp hd
      exact step.hasDistinctKeys_document
  simp [document, fields, HasDistinctKeys, FieldsHaveDistinctKeys, hasDistinctKeys_texts, hsteps]

end ScenarioScript
