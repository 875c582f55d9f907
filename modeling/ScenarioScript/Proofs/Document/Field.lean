import Mathlib.Data.List.Forall2
import ScenarioScript.Document.Display
import ScenarioScript.Proofs.Document

/-! Values inside of documents, and documents that are equal as plain data: the order of fields does
not count there, and a truth value is the number that it is. -/

namespace ScenarioScript.Document

def field? (k : String) : Document → Option Document
  | record fs => fs.lookup k
  | _ => none

def at? (path : List String) (d : Document) : Option Document :=
  path.foldlM (fun d k => d.field? k) d

def text? : Document → Option String
  | text s => some s
  | _ => none

def truth? (d : Document) : Option Bool :=
  d.number?.map fun n => decide (n ≠ 0)

def listed : Document → List Document
  | list ds => ds
  | _ => []

def textAt? (k : String) (d : Document) : Option String :=
  (d.field? k).bind text?

def numberAt? (k : String) (d : Document) : Option Int :=
  (d.field? k).bind number?

def truthAt? (k : String) (d : Document) : Option Bool :=
  (d.field? k).bind truth?

def listAt (k : String) (d : Document) : List Document :=
  ((d.field? k).map listed).getD []

mutual

def named (k : String) : Document → List Document
  | list ds => namedAmong k ds
  | record fs => namedBelow k fs
  | _ => []

def namedAmong (k : String) : List Document → List Document
  | [] => []
  | d :: ds => named k d ++ namedAmong k ds

def namedBelow (k : String) : List (String × Document) → List Document
  | [] => []
  | (l, d) :: fs => (if l = k then [d] else []) ++ named k d ++ namedBelow k fs

end

lemma namedAmong_eq_flatMap (k : String) (ds : List Document) :
    namedAmong k ds = ds.flatMap (named k) := by
  induction ds with
  | nil => rfl
  | cons d ds ih => rw [namedAmong, ih, List.flatMap_cons]

inductive Same : Document → Document → Prop
  | null : Same null null
  | number {d e : Document} {n : Int} (hd : d.number? = some n) (he : e.number? = some n) : Same d e
  | text (s : String) : Same (text s) (text s)
  | list {ds es : List Document} (h : List.Forall₂ Same ds es) : Same (list ds) (list es)
  | record {fs gs : List (String × Document)}
      (h : ∀ k, Option.Rel Same (fs.lookup k) (gs.lookup k)) : Same (record fs) (record gs)

lemma mem_of_lookup {fs : List (String × Document)} {k : String} {d : Document}
    (h : fs.lookup k = some d) : (k, d) ∈ fs := by
  obtain ⟨fs', gs', rfl, -⟩ := List.lookup_eq_some_iff.mp h
  simp

lemma same_refl (d : Document) : Same d d := by
  induction d using inductionOn with
  | null => exact .null
  | bool b => exact .number rfl rfl
  | int n => exact .number rfl rfl
  | text s => exact .text s
  | list ds ih => exact .list (List.forall₂_same.mpr ih)
  | record fs ih =>
    refine .record fun k => ?_
    cases h : fs.lookup k with
    | none => exact .none
    | some d => exact .some (ih (k, d) (mem_of_lookup h))

lemma of_number? {d : Document} {n : Int} (h : d.number? = some n) :
    d.text? = none ∧ d.listed = [] ∧ ∀ k, d.field? k = none := by
  cases d with
  | bool | int => exact ⟨rfl, rfl, fun _ => rfl⟩
  | null | text | list | record => simp [number?] at h

section Rel

variable {α : Type} {o p : Option Document}

lemma bind_eq_of_rel {f : Document → Option α} (hf : ∀ {d e}, Same d e → f d = f e)
    (h : Option.Rel Same o p) : o.bind f = p.bind f := by
  cases h with
  | none => rfl
  | some h => exact hf h

lemma filterMap_eq_of_same {f : Document → Option α} (hf : ∀ {d e}, Same d e → f d = f e)
    {ds es : List Document} (h : List.Forall₂ Same ds es) : ds.filterMap f = es.filterMap f := by
  induction h with
  | nil => rfl
  | cons h _ ih => rw [List.filterMap_cons, List.filterMap_cons, hf h, ih]

lemma mapM_eq_of_same {f : Document → Option α} (hf : ∀ {d e}, Same d e → f d = f e)
    {ds es : List Document} (h : List.Forall₂ Same ds es) : ds.mapM f = es.mapM f := by
  induction h with
  | nil => rfl
  | cons h _ ih => rw [List.mapM_cons, List.mapM_cons, hf h, ih]

end Rel

namespace Same

variable {d e : Document}

lemma number?_eq (h : Same d e) : d.number? = e.number? := by
  cases h with
  | number hd he => rw [hd, he]
  | null | text | list | record => rfl

lemma text?_eq (h : Same d e) : d.text? = e.text? := by
  cases h with
  | number hd he => rw [(of_number? hd).1, (of_number? he).1]
  | null | text | list | record => rfl

lemma truth?_eq (h : Same d e) : d.truth? = e.truth? := by
  rw [truth?, truth?, h.number?_eq]

lemma listed (h : Same d e) : List.Forall₂ Same d.listed e.listed := by
  cases h with
  | number hd he =>
    rw [(of_number? hd).2.1, (of_number? he).2.1]
    exact .nil
  | list h => exact h
  | null | text | record => exact .nil

lemma field? (h : Same d e) (k : String) : Option.Rel Same (d.field? k) (e.field? k) := by
  cases h with
  | number hd he =>
    rw [(of_number? hd).2.2, (of_number? he).2.2]
    exact .none
  | record h => exact h k
  | null | text | list => exact .none

lemma textAt?_eq (h : Same d e) (k : String) : d.textAt? k = e.textAt? k :=
  bind_eq_of_rel text?_eq (h.field? k)

lemma numberAt?_eq (h : Same d e) (k : String) : d.numberAt? k = e.numberAt? k :=
  bind_eq_of_rel number?_eq (h.field? k)

lemma truthAt?_eq (h : Same d e) (k : String) : d.truthAt? k = e.truthAt? k :=
  bind_eq_of_rel truth?_eq (h.field? k)

lemma listAt (h : Same d e) (k : String) : List.Forall₂ Same (d.listAt k) (e.listAt k) := by
  have hrel := h.field? k
  rw [Document.listAt, Document.listAt]
  generalize d.field? k = o at hrel
  generalize e.field? k = p at hrel
  cases hrel with
  | none => exact .nil
  | some h => exact h.listed

end Same

end ScenarioScript.Document
