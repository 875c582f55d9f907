import ScenarioScript.Sketch.Part

/-! Shapes of the variants that a sketch may have: for every kind its fields, with what they are
where they are left out. Only the members of closed sets are checked. -/

namespace ScenarioScript.Sketch

inductive Form
  | any | button | direction | modifiers
  deriving DecidableEq, Repr

structure Field where
  name : String
  form : Form
  default : Option Part

def required (name : String) : Field :=
  ⟨name, .any, none⟩

def optional (name : String) (default : Document) : Field :=
  ⟨name, .any, some (.plain default)⟩

def target : Field :=
  required "target_id"

def timeout : Field :=
  optional "timeout_ms" (.int 5000)

def conditions : List (String × List Field) := [
  ("duration", [required "ms"]),
  ("element_visible", [target]),
  ("element_hidden", [target]),
  ("element_enabled", [target]),
  ("text_present", [required "text"]),
  ("url_contains", [required "substring"]),
  ("page_loaded", [timeout]),
  ("network_idle", [timeout])]

def assertions : List (String × List Field) := [
  ("visible", []),
  ("hidden", []),
  ("enabled", []),
  ("disabled", []),
  ("checked", []),
  ("unchecked", []),
  ("text_equals", [required "text"]),
  ("text_contains", [required "text"]),
  ("attribute_equals", [required "attribute", required "value"]),
  ("has_class", [required "class_name"])]

def actions : List (String × List Field) := [
  ("click", [target, ⟨"button", .button, some (.plain (.text "left"))⟩, optional "click_count" (.int 1)]),
  ("type", [target, required "text", optional "clear_first" (.bool false),
    optional "press_enter" (.bool false)]),
  ("hover", [target]),
  ("scroll", [⟨"direction", .direction, some (.plain (.text "down"))⟩, optional "amount" (.int 300),
    optional "target_id" .null]),
  ("wait", [required "condition", timeout]),
  ("press_key", [required "key", ⟨"modifiers", .modifiers, some (.modifiers .empty)⟩]),
  ("navigate", [required "url"]),
  ("go_back", []),
  ("go_forward", []),
  ("refresh", []),
  ("assert", [target, ⟨"assertion", .any, some (.variant "visible" [])⟩]),
  ("select", [target, optional "value" .null, optional "label" .null, optional "index" .null]),
  ("upload_file", [target, required "file_path"]),
  ("screenshot", [optional "name" (.text "screenshot"), optional "full_page" (.bool false)])]

def shape? (kind : String) : Option (List Field) :=
  (conditions ++ assertions ++ actions).lookup kind

def misnamed {α : Type} : Except Misnomer α → Except Misfit α
  | .ok a => .ok a
  | .error m => .error (.misnomer m)

def members : Document → Except Misfit (List Document)
  | .list items => .ok items
  | .text s => .ok (s.toList.map fun c => .text (String.singleton c))
  | d => .error (.notIterable d.typeName)

def Form.read (d : Document) (part : Except Misfit Part) : Form → Except Misfit Part
  | any => part
  | button => do
    let b ← misnamed (Misnomer.check MouseButton.named "MouseButton" d)
    return .plain (.text b.spelling)
  | direction => do
    let d ← misnamed (Misnomer.check ScrollDirection.named "ScrollDirection" d)
    return .plain (.text d.spelling)
  | modifiers => do
    let ks ← (← members d).mapM fun m =>
      misnamed (Misnomer.check KeyModifier.named "KeyModifier" m)
    return .modifiers (.ofList ks)

def Field.read (fields : List (String × Document)) (parts : List (String × Except Misfit Part))
    (f : Field) : Except Misfit (String × Part) :=
  match fields.lookup f.name, parts.lookup f.name, f.default with
  | some d, some part, _ => return (f.name, ← f.form.read d part)
  | _, _, some p => .ok (f.name, p)
  | _, _, none => .error (.unknown (.text f.name))

/-- A record is a variant if it has a type, and else a set. -/
def assemble (fields : List (String × Document)) (parts : List (String × Except Misfit Part)) :
    Except Misfit Part :=
  match fields.lookup "type", parts.lookup "set" with
  | some (.text kind), _ =>
    match shape? kind with
    | some shape => do return .variant kind (← shape.mapM (Field.read fields parts))
    | none => .error (.unknown (.text kind))
  | some d, _ => .error (.unknown d)
  | none, some (.ok (.list items)) => Part.setOf items
  | none, some (.error m) => .error m
  | none, some (.ok p) => .error (.notIterable p.typeName)
  | none, none => .error (.unknown (.text "type"))

mutual

def part : Document → Except Misfit Part
  | .list items => return .list (← partsOf items)
  | .record fields => assemble fields (fieldParts fields)
  | d => .ok (.plain d)

def partsOf : List Document → Except Misfit (List Part)
  | [] => .ok []
  | d :: ds => return (← part d) :: (← partsOf ds)

def fieldParts : List (String × Document) → List (String × Except Misfit Part)
  | [] => []
  | (k, d) :: fs => (k, part d) :: fieldParts fs

end

end ScenarioScript.Sketch
