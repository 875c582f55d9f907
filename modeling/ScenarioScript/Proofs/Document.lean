import Mathlib.Data.List.Basic
import ScenarioScript.Document

namespace ScenarioScript.Document

theorem inductionOn {P : Document → Prop} (null : P null) (bool : ∀ b, P (bool b))
    (int : ∀ n, P (int n)) (text : ∀ s, P (text s))
    (list : ∀ ds, (∀ d ∈ ds, P d) → P (list ds))
    (record : ∀ fs, (∀ f ∈ fs, P f.2) → P (record fs)) : ∀ d, P d
  | .null => null
  | .bool b => bool b
  | .int n => int n
  | .text s => text s
  | .list ds => list ds fun d hd =>
    have := List.sizeOf_lt_of_mem hd
    inductionOn null bool int text list record d
  | .record fs => record fs fun (k, d) hf =>
    have := List.sizeOf_lt_of_mem hf
    inductionOn null bool int text list record d
termination_by d => d
decreasing_by all_goals simp_all; omega

mutual

def HasDistinctKeys : Document → Prop
  | list items => HaveDistinctKeys items
  | record fields => (fields.map Prod.fst).Nodup ∧ FieldsHaveDistinctKeys fields
  | _ => True

def HaveDistinctKeys : List Document → Prop
  | [] => True
  | d :: ds => HasDistinctKeys d ∧ HaveDistinctKeys ds

def FieldsHaveDistinctKeys : List (String × Document) → Prop
  | [] => True
  | (_, d) :: fs => HasDistinctKeys d ∧ FieldsHaveDistinctKeys fs

end

lemma haveDistinctKeys_iff {ds : List Document} :
    HaveDistinctKeys ds ↔ ∀ d ∈ ds, HasDistinctKeys d := by
  induction ds with
  | nil => simp [HaveDistinctKeys]
  | cons d ds ih => simp [HaveDistinctKeys, ih]

lemma fieldsHaveDistinctKeys_iff {fs : List (String × Document)} :
    FieldsHaveDistinctKeys fs ↔ ∀ f ∈ fs, HasDistinctKeys f.2 := by
  induction fs with
  | nil => simp [FieldsHaveDistinctKeys]
  | cons f fs ih => simp [FieldsHaveDistinctKeys, ih]

end ScenarioScript.Document
