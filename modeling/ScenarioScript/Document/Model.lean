import ScenarioScript.Document
import ScenarioScript.Spelling

namespace ScenarioScript

open Document

def Document.variant (type : String) (fields : List (String × Document)) : Document :=
  record (("type", text type) :: fields)

def Modifiers.document (m : Modifiers) : Document :=
  texts (m.toList.map KeyModifier.spelling)

def WaitCondition.document : WaitCondition → Document
  | duration ms => variant "duration" [("ms", int ms)]
  | elementVisible target => variant "element_visible" [("target_id", int target)]
  | elementHidden target => variant "element_hidden" [("target_id", int target)]
  | elementEnabled target => variant "element_enabled" [("target_id", int target)]
  | textPresent s => variant "text_present" [("text", text s)]
  | urlContains part => variant "url_contains" [("substring", text part)]
  | pageLoaded timeout => variant "page_loaded" [("timeout_ms", int timeout)]
  | networkIdle timeout => variant "network_idle" [("timeout_ms", int timeout)]

def Assertion.document : Assertion → Document
  | visible => variant "visible" []
  | hidden => variant "hidden" []
  | enabled => variant "enabled" []
  | disabled => variant "disabled" []
  | checked => variant "checked" []
  | unchecked => variant "unchecked" []
  | textEquals s => variant "text_equals" [("text", text s)]
  | textContains s => variant "text_contains" [("text", text s)]
  | attributeEquals name value =>
    variant "attribute_equals" [("attribute", text name), ("value", text value)]
  | hasClass className => variant "has_class" [("class_name", text className)]

def Action.document : Action → Document
  | click target button count =>
    variant "click" [("target_id", int target), ("button", text button.spelling),
      ("click_count", int count)]
  | type target s clearFirst pressEnter =>
    variant "type" [("target_id", int target), ("text", text s), ("clear_first", bool clearFirst),
      ("press_enter", bool pressEnter)]
  | hover target => variant "hover" [("target_id", int target)]
  | scroll direction amount target =>
    variant "scroll" [("direction", text direction.spelling), ("amount", int amount),
      ("target_id", ofOption int target)]
  | wait condition timeout =>
    variant "wait" [("condition", condition.document), ("timeout_ms", int timeout)]
  | pressKey key modifiers =>
    variant "press_key" [("key", text key), ("modifiers", modifiers.document)]
  | navigate url => variant "navigate" [("url", text url)]
  | goBack => variant "go_back" []
  | goForward => variant "go_forward" []
  | refresh => variant "refresh" []
  | assert target assertion =>
    variant "assert" [("target_id", int target), ("assertion", assertion.document)]
  | select target value label index =>
    variant "select" [("target_id", int target), ("value", ofOption text value),
      ("label", ofOption text label), ("index", ofOption int index)]
  | uploadFile target path =>
    variant "upload_file" [("target_id", int target), ("file_path", text path)]
  | screenshot name fullPage =>
    variant "screenshot" [("name", text name), ("full_page", bool fullPage)]

def Step.document (s : Step) : Document :=
  record [
    ("id", text s.id),
    ("description", text s.description),
    ("action", s.action.document),
    ("expected_outcome", ofOption text s.expected),
    ("timeout_ms", ofOption int s.timeout),
    ("retry_count", int s.retries),
    ("continue_on_failure", bool s.continueOnFailure)]

def Scenario.fields (s : Scenario) : List (String × Document) := [
  ("id", text s.id),
  ("name", text s.name),
  ("description", text s.description),
  ("start_url", text s.startUrl),
  ("tags", texts s.tags.toList),
  ("priority", text s.priority.spelling),
  ("steps", list (s.steps.map Step.document))]

def Scenario.document (s : Scenario) : Document :=
  record s.fields

end ScenarioScript
