import ScenarioScript.Proofs.Scenario.Parts
import ScenarioScript.Script

namespace ScenarioScript

/-- Targets that are not negative, and texts that line feeds alone break, but for the name of a
screenshot that the settings give. -/
structure Action.WellFormed (settings : Settings) (a : Action) : Prop where
  targets : ∀ t ∈ a.targets, 0 ≤ t
  coherent : a.Coherent
  texts : (∀ s ∈ a.texts, Text.Unbroken s) ∨ ∃ full, a = .screenshot settings.screenshotName full

structure Step.WellFormed (settings : Settings) (s : Step) : Prop where
  numbered : ∃ k, s.id = Script.stepId k
  id : Text.Unbroken s.id
  description : Text.Unbroken s.description
  expected : ∀ e ∈ s.expected, Text.Unbroken e
  retries : 0 ≤ s.retries
  action : s.action.WellFormed settings

structure Tags.WellFormed (tag : String) : Prop where
  ne : tag ≠ ""
  comma : ',' ∉ tag.toList
  lines : ∀ c ∈ tag.toList, Text.isLineBreak c = false

structure Scenario.WellFormed (settings : Settings) (s : Scenario) : Prop where
  id : Text.Unbroken s.id
  name_ne : s.name ≠ ""
  name : Text.Unbroken s.name
  description : Text.Unbroken s.description
  startUrl : Text.Unbroken s.startUrl
  tags : ∀ t ∈ s.tags.toList, Tags.WellFormed t
  ids : (s.steps.map (·.id)).Nodup
  steps : ∀ t ∈ s.steps, t.WellFormed settings

end ScenarioScript
