import Mathlib.Data.List.Basic
import ScenarioScript.Script

/-! What the items of an outline change in a draft. Diagnostics are only ever added, and steps and
faults come from blocks alone. -/

namespace ScenarioScript

open scoped List

namespace Item

def block? : Item → Option Block
  | step b => some b
  | _ => none

lemma eq_step_of_block? {i : Item} {b : Block} (h : i.block? = some b) : i = .step b := by
  cases i <;> simp_all [block?]

end Item

namespace Block

def acts (settings : Settings) (b : Block) : Bool :=
  (b.draft settings).1.action.isSome

lemma isSome_step? (settings : Settings) (id : String) (b : Block) :
    (b.step? settings id).isSome = b.acts settings :=
  Option.isSome_map

lemma acts_of_step? {settings : Settings} {id : String} {b : Block} {s : Step}
    (h : b.step? settings id = some s) : b.acts settings = true := by
  rw [← isSome_step? settings id, h]
  rfl

end Block

namespace Script

def numbered (settings : Settings) (n : Nat) (bs : List Block) : List Step :=
  (bs.zipIdx n).filterMap fun q => q.1.step? settings (stepId q.2)

lemma numbered_singleton (settings : Settings) (k : Nat) (b : Block) :
    numbered settings k [b] = (b.step? settings (stepId k)).toList := by
  cases hs : b.step? settings (stepId k) <;> simp [numbered, hs]

def missed (settings : Settings) (bs : List Block) : List Fault :=
  (bs.filter (!·.acts settings)).map Block.fault

end Script

namespace Script.Draft

variable {settings : Settings}

lemma addAll_cons (d : Draft) (i : Item) (is : List Item) :
    d.addAll settings (i :: is) = (d.add settings i).addAll settings is :=
  rfl

lemma addAll_append (d : Draft) (is js : List Item) :
    d.addAll settings (is ++ js) = (d.addAll settings is).addAll settings js :=
  List.foldl_append

lemma add_of_block?_none {i : Item} (h : i.block? = none) (d : Draft) :
    (d.add settings i).steps = d.steps ∧ (d.add settings i).faults = d.faults ∧
      d.cautions <+: (d.add settings i).cautions := by
  cases i with
  | name head text =>
    simp only [add]
    split
    · exact ⟨rfl, rfl, List.prefix_rfl⟩
    · exact ⟨rfl, rfl, List.prefix_append _ _⟩
  | priority word =>
    simp only [add]
    split
    · exact ⟨rfl, rfl, List.prefix_rfl⟩
    · exact ⟨rfl, rfl, List.prefix_append _ _⟩
  | description _ | url _ | tags _ => exact ⟨rfl, rfl, List.prefix_rfl⟩
  | step b => simp [Item.block?] at h

lemma faults_add (settings : Settings) (d : Draft) (i : Item) :
    (d.add settings i).faults = d.faults ∨
      ∃ b : Block, (d.add settings i).faults = d.faults ++ [b.fault] := by
  cases hi : i.block? with
  | none => exact .inl (add_of_block?_none hi d).2.1
  | some b =>
    obtain rfl := Item.eq_step_of_block? hi
    simp only [add, addBlock]
    split
    · exact .inl rfl
    · exact .inr ⟨b, rfl⟩

lemma faults_addAll (settings : Settings) {d : Draft}
    (hd : ∀ f ∈ d.faults, ∃ b : Block, f = b.fault) (is : List Item) :
    ∀ f ∈ (d.addAll settings is).faults, ∃ b : Block, f = b.fault := by
  induction is generalizing d with
  | nil => exact hd
  | cons i is ih =>
    rw [addAll_cons]
    refine ih fun f hf => ?_
    rcases faults_add settings d i with h | ⟨b, h⟩
    · exact hd f (h ▸ hf)
    · rw [h, List.mem_append, List.mem_singleton] at hf
      exact hf.elim (hd f) fun hf => ⟨b, hf⟩

lemma prefix_add (d : Draft) (i : Item) :
    d.faults <+: (d.add settings i).faults ∧ d.cautions <+: (d.add settings i).cautions := by
  cases hi : i.block? with
  | none =>
    obtain ⟨-, hf, hc⟩ := add_of_block?_none hi d
    exact ⟨hf ▸ List.prefix_rfl, hc⟩
  | some b =>
    obtain rfl := Item.eq_step_of_block? hi
    simp only [add, addBlock]
    split <;> simp

lemma prefix_addAll (settings : Settings) (d : Draft) (is : List Item) :
    d.faults <+: (d.addAll settings is).faults ∧ d.cautions <+: (d.addAll settings is).cautions := by
  induction is generalizing d with
  | nil => exact ⟨List.prefix_rfl, List.prefix_rfl⟩
  | cons i is ih =>
    rw [addAll_cons]
    obtain ⟨hf, hc⟩ := ih (d.add settings i)
    exact ⟨(prefix_add d i).1.trans hf, (prefix_add d i).2.trans hc⟩

lemma addBlock_eq (d : Draft) (b : Block) :
    d.addBlock settings b = { d with
      steps := d.steps ++ numbered settings d.blocks [b]
      blocks := d.blocks + 1
      faults := d.faults ++ missed settings [b]
      cautions := d.cautions ++ b.cautions settings } := by
  have hacts := Block.isSome_step? settings (stepId d.blocks) b
  rw [addBlock]
  cases hs : b.step? settings (stepId d.blocks) <;> rw [hs] at hacts <;>
    simp [numbered, missed, hs, ← hacts]

lemma blocks_add_of_none {i : Item} (h : i.block? = none) (d : Draft) :
    (d.add settings i).blocks = d.blocks := by
  cases i with
  | name head text =>
    simp only [add]
    split <;> rfl
  | priority word =>
    simp only [add]
    split <;> rfl
  | description _ | url _ | tags _ => rfl
  | step b => simp [Item.block?] at h

lemma addAll_blocks (settings : Settings) (d : Draft) (is : List Item) :
    (d.addAll settings is).blocks = d.blocks + (is.filterMap Item.block?).length ∧
      (d.addAll settings is).steps =
        d.steps ++ numbered settings d.blocks (is.filterMap Item.block?) ∧
      (d.addAll settings is).faults = d.faults ++ missed settings (is.filterMap Item.block?) := by
  induction is generalizing d with
  | nil => simp [addAll, numbered, missed]
  | cons i is ih =>
    obtain ⟨hb, hs, hf⟩ := ih (d.add settings i)
    rw [addAll_cons, hb, hs, hf]
    cases hi : i.block? with
    | none =>
      obtain ⟨hs, hf, -⟩ := @add_of_block?_none settings i hi d
      rw [List.filterMap_cons_none hi, blocks_add_of_none hi, hs, hf]
      exact ⟨rfl, rfl, rfl⟩
    | some b =>
      obtain rfl := Item.eq_step_of_block? hi
      rw [List.filterMap_cons_some hi, add, addBlock_eq]
      refine ⟨?_, ?_, ?_⟩
      · simp only [List.length_cons]
        omega
      · simp only [numbered, List.zipIdx_cons, List.zipIdx_nil, List.filterMap_cons,
          List.filterMap_nil]
        cases b.step? settings (stepId d.blocks) <;> simp
      · simp only [missed, List.filter_cons, List.filter_nil]
        cases b.acts settings <;> simp

lemma scenario_reading (d : Draft) : d.reading.scenario = if d.name.isEmpty then none else
    some ⟨scenarioId, d.name, d.description, d.startUrl, d.steps, d.tags, d.priority⟩ := by
  rw [reading]
  split <;> rfl

lemma faults_reading (d : Draft) :
    d.reading.faults = d.faults ++ if d.name.isEmpty then [⟨1, 0, .nameMissing⟩] else [] := by
  rw [reading]
  split <;> simp

lemma cautions_reading (d : Draft) : d.reading.cautions = d.cautions := by
  rw [reading]
  split <;> rfl

end Script.Draft

end ScenarioScript
