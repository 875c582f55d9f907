import ScenarioScript.Sketch.Shape

/-! Sketches: scenarios that are put together by hand from any values, of which only the members of
closed sets are checked. -/

namespace ScenarioScript

structure Sketch.Step where
  id : Document
  description : Document
  action : Part
  expected : Document
  timeout : Document
  retries : Document
  continueOnFailure : Document

structure Sketch where
  id : Document
  name : Document
  description : Document
  startUrl : Document
  steps : List Sketch.Step
  tags : Part
  priority : Priority

namespace Sketch

abbrev Fields := List (String × Document)

def fieldsOf : Document → Except Misfit Fields
  | .record fs => .ok fs
  | d => .error (.noMember d.typeName "get")

def Fields.get (fs : Fields) (name : String) : Except Misfit Document :=
  match fs.lookup name with
  | some d => .ok d
  | none => .error (.unknown (.text name))

def Fields.getOr (fs : Fields) (name : String) (default : Document) : Document :=
  (fs.lookup name).getD default

def Step.ofDocument (d : Document) : Except Misfit Step := do
  let fs ← fieldsOf d
  return {
    id := ← fs.get "id"
    description := ← fs.get "description"
    action := ← part (← fs.get "action")
    expected := fs.getOr "expected_outcome" .null
    timeout := fs.getOr "timeout_ms" .null
    retries := fs.getOr "retry_count" (.int 0)
    continueOnFailure := fs.getOr "continue_on_failure" (.bool false) }

def ofDocument (d : Document) : Except Misfit Sketch := do
  let fs ← fieldsOf d
  let id ← fs.get "id"
  let name ← fs.get "name"
  let steps ← (← members (fs.getOr "steps" (.list []))).mapM Step.ofDocument
  let tags ← members (fs.getOr "tags" (.list []))
  let priority := fs.getOr "priority" (.text "medium")
  return {
    id := id
    name := name
    description := fs.getOr "description" (.text "")
    startUrl := fs.getOr "start_url" (.text "")
    steps := steps
    tags := ← Part.setOf (tags.map .plain)
    priority := ← misnamed (Misnomer.check Priority.named "Priority" priority) }

def actionDocument : Part → Except Misfit Document
  | .variant kind fields => (Part.variant kind fields).document
  | p => .error (.noMember p.typeName "to_dict")

def Step.document (s : Step) : Except Misfit Document := do
  return .record [
    ("id", s.id),
    ("description", s.description),
    ("action", ← actionDocument s.action),
    ("expected_outcome", s.expected),
    ("timeout_ms", s.timeout),
    ("retry_count", s.retries),
    ("continue_on_failure", s.continueOnFailure)]

def fields (s : Sketch) : Except Misfit Fields := do
  return [
    ("id", s.id),
    ("name", s.name),
    ("description", s.description),
    ("start_url", s.startUrl),
    ("tags", ← s.tags.document),
    ("priority", .text s.priority.spelling),
    ("steps", .list (← s.steps.mapM Step.document))]

end Sketch

end ScenarioScript
