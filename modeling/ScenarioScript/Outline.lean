import ScenarioScript.Block
import ScenarioScript.Tags
import ScenarioScript.Scenario

/-! The outline of a script: its header, its settings and its step blocks, in order. Words that are
none of these are passed over. -/

namespace ScenarioScript

inductive Item
  | name (head : Token) (text : String)
  | description (text : String)
  | url (text : String)
  | tags (tags : SortedSet String)
  | priority (word : Token)
  | step (block : Block)
  deriving DecidableEq

namespace Item

def value? (kind : TokenKind) : List Token → Option Token
  | t :: _ => if t.kind = kind && !t.is .step then some t else none
  | [] => none

def setting (kind : TokenKind) (item : Token → Item) (ts : List Token) : List Item × List Token :=
  match value? kind ts with
  | some t => ([item t], ts.tail)
  | none => ([], ts)

def readAt (t : Token) (ts : List Token) : List Item × List Token :=
  match t.keyword with
  | some .scenario => setting .string (fun v => .name t v.text) ts
  | some .description => setting .string (fun v => .description v.text) ts
  | some .url => setting .string (fun v => .url v.text) ts
  | some .tags => setting .array (fun v => .tags (Tags.read v.text)) ts
  | some .priority => setting .keyword .priority ts
  | some .step => ([.step (Block.read t ts).1], (Block.read t ts).2)
  | _ => ([], ts)

theorem length_setting_le (kind : TokenKind) (item : Token → Item) (ts : List Token) :
    (setting kind item ts).2.length ≤ ts.length := by
  unfold setting
  split <;> simp

theorem length_readAt_le (t : Token) (ts : List Token) : (readAt t ts).2.length ≤ ts.length := by
  unfold readAt
  split <;> first
    | exact length_setting_le _ _ _
    | exact Block.length_read_le _ _
    | exact Nat.le_refl _

end Item

def outline : List Token → List Item
  | [] => []
  | t :: ts => (Item.readAt t ts).1 ++ outline (Item.readAt t ts).2
termination_by ts => ts.length
decreasing_by
  have := Item.length_readAt_le t ts
  simp
  omega

theorem outline_nil : outline [] = [] := by
  rw [outline.eq_def]

theorem outline_cons (t : Token) (ts : List Token) :
    outline (t :: ts) = (Item.readAt t ts).1 ++ outline (Item.readAt t ts).2 := by
  rw [outline.eq_def]

end ScenarioScript
