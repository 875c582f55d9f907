import ScenarioScript.Proofs.Document.Tree

namespace ScenarioScript.Document

open ScenarioScript.Yaml.Point (ofText)
open ScenarioScript.Yaml (Value Tree Making Event Tag PlainKind)

mutual

def toValue : Document → Value
  | null => .null
  | bool b => .bool b
  | int n => .int n
  | text s => .text (ofText s)
  | list ds => .list (toValues ds)
  | record fs => .record (fieldValues fs)

def toValues : List Document → List Value
  | [] => []
  | d :: ds => toValue d :: toValues ds

def fieldValues : List (String × Document) → List (Value × Value)
  | [] => []
  | (k, d) :: fs => (.text (ofText k), toValue d) :: fieldValues fs

end

lemma toValues_eq (ds : List Document) : toValues ds = ds.map toValue := by
  induction ds with
  | nil => rw [toValues, List.map_nil]
  | cons d ds ih => rw [toValues, ih, List.map_cons]

lemma fieldValues_eq (fs : List (String × Document)) :
    fieldValues fs = fs.map fun f => (.text (ofText f.1), f.2.toValue) := by
  induction fs with
  | nil => rw [fieldValues, List.map_nil]
  | cons f fs ih => rw [fieldValues, ih, List.map_cons]

namespace Yaml

lemma trees_eq (ds : List Document) : trees ds = ds.map tree := by
  induction ds with
  | nil => rw [trees, List.map_nil]
  | cons d ds ih => rw [trees, ih, List.map_cons]

lemma fieldTrees_eq (fs : List (String × Document)) :
    fieldTrees fs = fs.map fun f => (.scalar none (.plain .text) (ofText f.1), tree f.2) := by
  induction fs with
  | nil => rw [fieldTrees, List.map_nil]
  | cons f fs ih => rw [fieldTrees, ih, List.map_cons]

section Makings

variable {vs : List Value}

lemma now_of (vs : List Value) : Tree.now (vs.map Making.of) = [] := by
  induction vs with
  | nil => rfl
  | cons v vs ih => exact ih

lemma later_of (vs : List Value) : Tree.later (vs.map Making.of) = [] := by
  induction vs with
  | nil => rfl
  | cons v vs ih => exact ih

lemma making_ofItems {ts : List Tree} (h : ts.map Tree.making = vs.map Making.of) :
    (Tree.ofItems .sequence ts).making = .of (.list vs) := by
  have hmaking : (Tree.ofItems .sequence ts).making = ⟨[], Event.before (Tree.now (ts.map Tree.making))
      (Tree.later (ts.map Tree.making)), .list ((ts.map Tree.making).map (·.value))⟩ := rfl
  rw [hmaking, h, now_of, later_of, List.map_map]
  have hvalues : vs.map ((·.value) ∘ Making.of) = vs := List.map_id vs
  rw [hvalues]
  rfl

end Makings

section Fields

variable {fs : List (Value × Value)} {k v : Value}

lemma setField_of_new (h : ∀ f ∈ fs, Value.sameKey f.1 k = false) :
    Value.setField k v fs = fs ++ [(k, v)] := by
  induction fs with
  | nil => rfl
  | cons f fs ih =>
    rw [Value.setField, h f (by simp), ih fun g hg => h g (by simp [hg])]
    rfl

lemma distinct_eq (h : fs.Pairwise fun f g => Value.sameKey f.1 g.1 = false) :
    Value.distinct fs = fs := by
  have hfold : ∀ acc : List (Value × Value),
      (acc ++ fs).Pairwise (fun f g => Value.sameKey f.1 g.1 = false) →
        fs.foldl (fun r f => Value.setField f.1 f.2 r) acc = acc ++ fs := by
    clear h
    induction fs with
    | nil => simp
    | cons f fs ih =>
      intro acc h
      have hnew : ∀ g ∈ acc, Value.sameKey g.1 f.1 = false := fun g hg =>
        (List.pairwise_append.mp h).2.2 g hg f (by simp)
      rw [List.foldl_cons, setField_of_new hnew, ih _ (by simpa using h)]
      simp
  exact hfold [] h

end Fields

section Record

variable {fs : List (String × Document)}

lemma merge?_fieldTrees (fs : List (String × Document)) :
    Tree.merge? (fieldTrees fs) = some (fieldTrees fs) := by
  have hmerge : ∀ f ∈ fieldTrees fs, f.1.isMerge = false := by
    intro f hf
    rw [fieldTrees_eq] at hf
    obtain ⟨g, -, rfl⟩ := List.mem_map.mp hf
    rfl
  have hnone : (fieldTrees fs).filter (·.1.isMerge) = [] :=
    List.filter_eq_nil_iff.mpr fun f hf => by simp [hmerge f hf]
  have hall : (fieldTrees fs).filter (!·.1.isMerge) = fieldTrees fs :=
    List.filter_eq_self.mpr fun f hf => by simp [hmerge f hf]
  simp [Tree.merge?, hnone, hall]

lemma fieldMakings_fieldTrees (h : ∀ f ∈ fs, (tree f.2).making = .of f.2.toValue) :
    (fieldTrees fs).flatMap Tree.fieldMakings =
      (fs.flatMap fun f => [.text (ofText f.1), f.2.toValue]).map Making.of := by
  induction fs with
  | nil => rw [fieldTrees]; rfl
  | cons f fs ih =>
    rw [fieldTrees, List.flatMap_cons, List.flatMap_cons, List.map_append,
      ih fun g hg => h g (by simp [hg]), Tree.fieldMakings, h f (by simp)]
    rfl

lemma values_fieldTrees (h : ∀ f ∈ fs, (tree f.2).making = .of f.2.toValue) :
    (fieldTrees fs).map (fun f => (f.1.keyMaking.value, f.2.making.value)) = fieldValues fs := by
  rw [fieldTrees_eq, fieldValues_eq, List.map_map]
  refine List.map_congr_left fun f hf => ?_
  simp only [Function.comp_apply, h f hf]
  rfl

lemma making_record (hdistinct : (fs.map Prod.fst).Nodup)
    (h : ∀ f ∈ fs, (tree f.2).making = .of f.2.toValue) :
    (tree (record fs)).making = .of (record fs).toValue := by
  have hmaking : (tree (record fs)).making =
      Tree.fill .record (Tree.merge? (fieldTrees fs)) := by rw [tree]; rfl
  have hevents : (fieldTrees fs).filterMap (·.1.keyEvent?) = [] := by
    rw [fieldTrees_eq, List.filterMap_map]
    exact List.filterMap_eq_nil_iff.mpr fun f _ => rfl
  have hkeys : (fieldValues fs).Pairwise fun f g => Value.sameKey f.1 g.1 = false := by
    rw [fieldValues_eq, List.pairwise_map]
    rw [List.Nodup, List.pairwise_map] at hdistinct
    exact hdistinct.imp fun hne => by simpa [Value.sameKey] using hne
  rw [hmaking, merge?_fieldTrees, Tree.fill]
  simp only [fieldMakings_fieldTrees h, values_fieldTrees h, hevents, now_of, later_of,
    distinct_eq hkeys]
  rw [toValue]
  rfl

end Record

lemma Legible.making {room : ℕ} {d : Document} (h : Legible room d) :
    (tree d).making = .of d.toValue := by
  induction h with
  | null => rw [tree, toValue]; rfl
  | bool b => cases b <;> rw [tree, toValue] <;> rfl
  | @int _ n short =>
    have hmaking : (tree (.int n)).making =
        .ofResult ((ScenarioScript.Yaml.Integer.read (ofText (Decimal.text n))).map .int) := by
      rw [tree]
      rfl
    rw [hmaking, ScenarioScript.Yaml.Integer.read_text short, toValue]
    rfl
  | @text _ s feeds => rw [tree, toValue]; rfl
  | @list room ds items parts ih =>
    rw [tree, toValue, trees_eq, toValues_eq]
    exact making_ofItems (by simpa using ih)
  | @record room fs ne keys texts distinct parts ih => exact making_record distinct ih

end Yaml

end ScenarioScript.Document
