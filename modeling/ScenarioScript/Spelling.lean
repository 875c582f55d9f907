import ScenarioScript.Document.Display
import ScenarioScript.Scenario

namespace ScenarioScript

structure Misnomer where
  value : Document
  family : String
  deriving Repr, BEq

def Misnomer.message (m : Misnomer) : String :=
  m.value.quoted ++ " is not a valid " ++ m.family

def Misnomer.check {α : Type} (named : String → Except Misnomer α) (family : String) :
    Document → Except Misnomer α
  | .text s => named s
  | d => .error ⟨d, family⟩

def MouseButton.spelling : MouseButton → String
  | left => "left"
  | right => "right"
  | middle => "middle"

def MouseButton.named (s : String) : Except Misnomer MouseButton :=
  match [left, right, middle].find? (·.spelling = s) with
  | some b => .ok b
  | none => .error ⟨.text s, "MouseButton"⟩

def ScrollDirection.spelling : ScrollDirection → String
  | up => "up"
  | down => "down"
  | left => "left"
  | right => "right"

def ScrollDirection.named (s : String) : Except Misnomer ScrollDirection :=
  match [up, down, left, right].find? (·.spelling = s) with
  | some d => .ok d
  | none => .error ⟨.text s, "ScrollDirection"⟩

def KeyModifier.spelling : KeyModifier → String
  | ctrl => "ctrl"
  | alt => "alt"
  | shift => "shift"
  | metaKey => "meta"

def KeyModifier.named (s : String) : Except Misnomer KeyModifier :=
  match [ctrl, alt, shift, metaKey].find? (·.spelling = s) with
  | some k => .ok k
  | none => .error ⟨.text s, "KeyModifier"⟩

def Priority.spelling : Priority → String
  | critical => "critical"
  | high => "high"
  | medium => "medium"
  | low => "low"

def Priority.named (s : String) : Except Misnomer Priority :=
  match [critical, high, medium, low].find? (·.spelling = s) with
  | some p => .ok p
  | none => .error ⟨.text s, "Priority"⟩

end ScenarioScript
