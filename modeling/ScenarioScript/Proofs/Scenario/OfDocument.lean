import ScenarioScript.Document.Model
import ScenarioScript.Proofs.Document.Field
import ScenarioScript.Proofs.Tags

/-! Scenarios read back from their documents, field by field. Documents that are equal as plain data
are read alike, so they are of one scenario. -/

namespace ScenarioScript

open Document

def WaitCondition.ofDocument? (d : Document) : Option WaitCondition :=
  match d.textAt? "type" with
  | some "duration" => (d.numberAt? "ms").map .duration
  | some "element_visible" => (d.numberAt? "target_id").map .elementVisible
  | some "element_hidden" => (d.numberAt? "target_id").map .elementHidden
  | some "element_enabled" => (d.numberAt? "target_id").map .elementEnabled
  | some "text_present" => (d.textAt? "text").map .textPresent
  | some "url_contains" => (d.textAt? "substring").map .urlContains
  | some "page_loaded" => (d.numberAt? "timeout_ms").map .pageLoaded
  | some "network_idle" => (d.numberAt? "timeout_ms").map .networkIdle
  | _ => none

def Assertion.ofDocument? (d : Document) : Option Assertion :=
  match d.textAt? "type" with
  | some "visible" => some .visible
  | some "hidden" => some .hidden
  | some "enabled" => some .enabled
  | some "disabled" => some .disabled
  | some "checked" => some .checked
  | some "unchecked" => some .unchecked
  | some "text_equals" => (d.textAt? "text").map .textEquals
  | some "text_contains" => (d.textAt? "text").map .textContains
  | some "attribute_equals" =>
    return .attributeEquals (← d.textAt? "attribute") (← d.textAt? "value")
  | some "has_class" => (d.textAt? "class_name").map .hasClass
  | _ => none

def Modifiers.ofDocuments (ds : List Document) : Modifiers :=
  .ofList <| ds.filterMap fun d => d.text?.bind fun s => (KeyModifier.named s).toOption

def Action.ofDocument? (d : Document) : Option Action :=
  match d.textAt? "type" with
  | some "click" => do
    let button ← (MouseButton.named (← d.textAt? "button")).toOption
    return .click (← d.numberAt? "target_id") button (← d.numberAt? "click_count")
  | some "type" => do
    return .type (← d.numberAt? "target_id") (← d.textAt? "text") (← d.truthAt? "clear_first")
      (← d.truthAt? "press_enter")
  | some "hover" => (d.numberAt? "target_id").map .hover
  | some "scroll" => do
    let direction ← (ScrollDirection.named (← d.textAt? "direction")).toOption
    return .scroll direction (← d.numberAt? "amount") (d.numberAt? "target_id")
  | some "wait" => do
    return .wait (← (d.field? "condition").bind WaitCondition.ofDocument?) (← d.numberAt? "timeout_ms")
  | some "press_key" => do
    return .pressKey (← d.textAt? "key") (.ofDocuments (d.listAt "modifiers"))
  | some "navigate" => (d.textAt? "url").map .navigate
  | some "go_back" => some .goBack
  | some "go_forward" => some .goForward
  | some "refresh" => some .refresh
  | some "assert" => do
    return .assert (← d.numberAt? "target_id") (← (d.field? "assertion").bind Assertion.ofDocument?)
  | some "select" => do
    return .select (← d.numberAt? "target_id") (d.textAt? "value") (d.textAt? "label")
      (d.numberAt? "index")
  | some "upload_file" => do
    return .uploadFile (← d.numberAt? "target_id") (← d.textAt? "file_path")
  | some "screenshot" => do
    return .screenshot (← d.textAt? "name") (← d.truthAt? "full_page")
  | _ => none

def Step.ofDocument? (d : Document) : Option Step := do
  return ⟨← d.textAt? "id", ← d.textAt? "description", ← (d.field? "action").bind Action.ofDocument?,
    d.textAt? "expected_outcome", d.numberAt? "timeout_ms", ← d.numberAt? "retry_count",
    ← d.truthAt? "continue_on_failure"⟩

def Scenario.ofDocument? (d : Document) : Option Scenario := do
  let priority ← (Priority.named (← d.textAt? "priority")).toOption
  return ⟨← d.textAt? "id", ← d.textAt? "name", ← d.textAt? "description", ← d.textAt? "start_url",
    ← (d.listAt "steps").mapM Step.ofDocument?, .ofList ((d.listAt "tags").filterMap text?), priority⟩

section Same

variable {d e : Document}

lemma WaitCondition.ofDocument?_eq (h : Same d e) : ofDocument? d = ofDocument? e := by
  simp only [ofDocument?, h.textAt?_eq, h.numberAt?_eq]

lemma Assertion.ofDocument?_eq (h : Same d e) : ofDocument? d = ofDocument? e := by
  simp only [ofDocument?, h.textAt?_eq]

lemma Modifiers.ofDocuments_eq {ds es : List Document} (h : List.Forall₂ Same ds es) :
    ofDocuments ds = ofDocuments es := by
  rw [ofDocuments, ofDocuments, filterMap_eq_of_same (fun h => by rw [h.text?_eq]) h]

lemma Action.ofDocument?_eq (h : Same d e) : ofDocument? d = ofDocument? e := by
  have hcondition := bind_eq_of_rel WaitCondition.ofDocument?_eq (h.field? "condition")
  have hassertion := bind_eq_of_rel Assertion.ofDocument?_eq (h.field? "assertion")
  have hmodifiers := Modifiers.ofDocuments_eq (h.listAt "modifiers")
  simp only [ofDocument?, h.textAt?_eq, h.numberAt?_eq, h.truthAt?_eq, hcondition, hassertion,
    hmodifiers]

lemma Step.ofDocument?_eq (h : Same d e) : ofDocument? d = ofDocument? e := by
  have haction := bind_eq_of_rel Action.ofDocument?_eq (h.field? "action")
  simp only [ofDocument?, h.textAt?_eq, h.numberAt?_eq, h.truthAt?_eq, haction]

lemma Scenario.ofDocument?_eq (h : Same d e) : ofDocument? d = ofDocument? e := by
  have hsteps := mapM_eq_of_same Step.ofDocument?_eq (h.listAt "steps")
  have htags := filterMap_eq_of_same Same.text?_eq (h.listAt "tags")
  simp only [ofDocument?, h.textAt?_eq, hsteps, htags]

end Same

lemma Document.filterMap_text?_map (ss : List String) :
    (ss.map Document.text).filterMap text? = ss := by
  rw [List.filterMap_map]
  exact List.filterMap_some

lemma WaitCondition.ofDocument?_document (c : WaitCondition) : ofDocument? c.document = some c := by
  cases c <;> rfl

lemma Assertion.ofDocument?_document (a : Assertion) : ofDocument? a.document = some a := by
  cases a <;> rfl

lemma Modifiers.ofDocuments_spelled (m : Modifiers) :
    ofDocuments ((m.toList.map KeyModifier.spelling).map Document.text) = m := by
  obtain ⟨alt, ctrl, metaKey, shift⟩ := m
  cases alt <;> cases ctrl <;> cases metaKey <;> cases shift <;> rfl

lemma Action.ofDocument?_document (a : Action) : ofDocument? a.document = some a := by
  cases a with
  | click target button count => cases button <;> rfl
  | type target s clearFirst pressEnter => cases clearFirst <;> cases pressEnter <;> rfl
  | scroll direction amount target => cases direction <;> cases target <;> rfl
  | wait c timeout =>
    change (do return Action.wait (← WaitCondition.ofDocument? c.document) timeout) = _
    rw [c.ofDocument?_document]
    rfl
  | pressKey key m =>
    change some (Action.pressKey key
      (.ofDocuments ((m.toList.map KeyModifier.spelling).map Document.text))) = _
    rw [m.ofDocuments_spelled]
  | assert target a =>
    change (do return Action.assert target (← Assertion.ofDocument? a.document)) = _
    rw [a.ofDocument?_document]
    rfl
  | select target value label index => cases value <;> cases label <;> cases index <;> rfl
  | screenshot name fullPage => cases fullPage <;> rfl
  | _ => rfl

lemma Step.ofDocument?_document (s : Step) : ofDocument? s.document = some s := by
  obtain ⟨id, description, action, expected, timeout, retries, continues⟩ := s
  have hexpected : (ofOption Document.text expected).text? = expected := by cases expected <;> rfl
  have htimeout : (ofOption Document.int timeout).number? = timeout := by cases timeout <;> rfl
  have hcontinues : (Document.bool continues).truth? = some continues := by
    cases continues <;> rfl
  change (do
    return Step.mk id description (← Action.ofDocument? action.document)
      (ofOption Document.text expected).text? (ofOption Document.int timeout).number? retries
      (← (Document.bool continues).truth?)) = _
  rw [action.ofDocument?_document, hexpected, htimeout, hcontinues]
  rfl

lemma Step.mapM_ofDocument? (ss : List Step) : (ss.map document).mapM ofDocument? = some ss := by
  induction ss with
  | nil => rfl
  | cons s ss ih =>
    rw [List.map_cons, List.mapM_cons, ih, s.ofDocument?_document]
    rfl

lemma Scenario.ofDocument?_document (s : Scenario) : ofDocument? s.document = some s := by
  obtain ⟨id, name, description, startUrl, steps, tags, priority⟩ := s
  have hpriority : (Priority.named priority.spelling).toOption = some priority := by
    cases priority <;> rfl
  change (do
    let p ← (Priority.named priority.spelling).toOption
    return Scenario.mk id name description startUrl
      (← (steps.map Step.document).mapM Step.ofDocument?)
      (.ofList ((tags.toList.map Document.text).filterMap text?)) p) = _
  rw [hpriority, Step.mapM_ofDocument?, filterMap_text?_map, SortedSet.ofList_toList]
  rfl

lemma Scenario.same_document_iff {s t : Scenario} : Same s.document t.document ↔ s = t := by
  constructor
  · intro h
    have hread := Scenario.ofDocument?_eq h
    rw [s.ofDocument?_document, t.ofDocument?_document] at hread
    exact Option.some.inj hread
  · rintro rfl
    exact same_refl _

end ScenarioScript
