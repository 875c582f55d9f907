import ScenarioScript.Proofs.Scenario.OfDocument
import ScenarioScript.Sketch

namespace ScenarioScript

open Document

namespace SortedSet

variable {α : Type} [LT α] [DecidableLT α] [LE α] [Std.IsLinearOrder α] [Std.LawfulOrderLT α]

omit [DecidableLT α] in
lemma lt_of_not_lt_of_ne {x y : α} (h : ¬ x < y) (hne : x ≠ y) : y < x := by
  have hle : y ≤ x := Std.not_lt.mp h
  refine Std.lt_iff_le_and_not_ge.mpr ⟨hle, fun hxy => ?_⟩
  exact hne (Std.le_antisymm hxy hle)

lemma perm_insertList {x : α} {l : List α} (h : x ∉ l) : (insertList x l).Perm (x :: l) := by
  induction l with
  | nil => exact .refl _
  | cons a l ih =>
    simp only [List.mem_cons, not_or] at h
    rw [insertList]
    split
    · exact .refl _
    · next hxa =>
      rw [if_pos (lt_of_not_lt_of_ne hxa h.1)]
      exact ((ih h.2).cons a).trans (.swap x a l)

lemma notMem_ofList {x : α} {l : List α} (h : x ∉ l) : x ∉ (ofList l).toList :=
  fun hmem => h (mem_of_mem_ofList hmem)

lemma perm_toList_ofList {l : List α} (h : l.Nodup) : (ofList l).toList.Perm l := by
  induction l with
  | nil => exact .refl _
  | cons x l ih =>
    obtain ⟨hx, hl⟩ := List.nodup_cons.mp h
    exact (perm_insertList (notMem_ofList hx)).trans ((ih hl).cons x)

omit [DecidableLT α] [Std.IsLinearOrder α] in
lemma nodup_of_sorted {l : List α} (h : l.Pairwise (· < ·)) : l.Nodup :=
  h.imp Std.ne_of_lt

lemma toList_ofList_of_perm {l l' : List α} (h : l.Perm l') (hl : l'.Pairwise (· < ·)) :
    (ofList l).toList = l' := by
  have hnodup : l.Nodup := h.nodup_iff.mpr (nodup_of_sorted hl)
  refine List.Perm.eq_of_pairwise ?_ (ofList l).sorted hl ((perm_toList_ofList hnodup).trans h)
  exact fun a b _ _ hab hba => absurd (Std.lt_trans hab hba) Std.lt_irrefl

end SortedSet

lemma Modifiers.sorted_spelled (m : Modifiers) :
    (m.toList.map KeyModifier.spelling).Pairwise (· < ·) := by
  obtain ⟨alt, ctrl, metaKey, shift⟩ := m
  cases alt <;> cases ctrl <;> cases metaKey <;> cases shift <;> decide

namespace Document

lemma insert_text {s : String} {ss : List String} (h : s ∉ ss) :
    (text s).insert (ss.map text) = .ok ((SortedSet.insertList s ss).map text) := by
  induction ss with
  | nil => rfl
  | cons t ss ih =>
    simp only [List.mem_cons, not_or] at h
    rw [List.map_cons, Document.insert, precedes?, SortedSet.insertList]
    by_cases hst : s < t
    · rw [if_pos hst, decide_eq_true hst]
      rfl
    · rw [if_neg hst, if_pos (SortedSet.lt_of_not_lt_of_ne hst h.1), decide_eq_false hst]
      dsimp only
      rw [ih h.2]
      rfl

lemma sorted_texts {ss : List String} (h : ss.Nodup) :
    sorted (ss.map text) = .ok ((SortedSet.ofList ss).toList.map text) := by
  induction ss with
  | nil => rfl
  | cons s ss ih =>
    obtain ⟨hs, hss⟩ := List.nodup_cons.mp h
    have htail : (ss.map text).foldrM Document.insert [] =
        .ok ((SortedSet.ofList ss).toList.map text) := ih hss
    rw [sorted, List.map_cons, List.foldrM_cons, htail]
    exact insert_text (SortedSet.notMem_ofList hs)

lemma named_texts (k : String) (ss : List String) : (texts ss).named k = [] := by
  rw [texts, named, namedAmong_eq_flatMap, List.flatMap_map]
  exact List.flatMap_eq_nil_iff.mpr fun _ _ => rfl

end Document

namespace Part

def ofDocument : Document → Part
  | .list ds => list (ds.map ofDocument)
  | d => plain d

lemma documents_eq_mapM (ps : List Part) : documents ps = ps.mapM document := by
  induction ps with
  | nil => rfl
  | cons p ps ih => rw [documents, List.mapM_cons, ih]

lemma document_ofDocument (d : Document) : (ofDocument d).document = .ok d := by
  induction d using inductionOn with
  | list ds ih =>
    have hitems : (ds.map ofDocument).mapM document = .ok ds := by
      induction ds with
      | nil => rfl
      | cons d ds ihs =>
        rw [List.map_cons, List.mapM_cons, ih d (by simp), ihs fun e he => ih e (by simp [he])]
        rfl
    rw [ofDocument, document, documents_eq_mapM, hitems]
    rfl
  | null | bool | int | text | record => simp [ofDocument, document]

mutual

/-- A part that is told as a document, with its sets in any order. -/
inductive Tells : Part → Document → Prop
  | plain (d : Document) : Tells (plain d) d
  | modifiers (m : Modifiers) : Tells (modifiers m) m.document
  | set {ss ts : List String} (h : ss.Perm ts) (hts : ts.Pairwise (· < ·)) :
    Tells (set (ss.map fun s => plain (text s))) (texts ts)
  | variant (kind : String) {fields : List (String × Part)} {fs : List (String × Document)}
    (h : FieldsTell fields fs) : Tells (variant kind fields) (Document.variant kind fs)

inductive FieldsTell : List (String × Part) → List (String × Document) → Prop
  | nil : FieldsTell [] []
  | cons (k : String) {p : Part} {d : Document} {fields : List (String × Part)}
    {fs : List (String × Document)} (h : Tells p d) (hs : FieldsTell fields fs) :
    FieldsTell ((k, p) :: fields) ((k, d) :: fs)

end

lemma documents_texts (ss : List String) :
    documents (ss.map fun s => plain (text s)) = .ok (ss.map text) := by
  induction ss with
  | nil => rfl
  | cons s ss ih =>
    rw [List.map_cons, documents, ih]
    rfl

mutual

theorem Tells.document_eq {p : Part} {d : Document} (h : Tells p d) : p.document = .ok d := by
  cases h with
  | plain => rfl
  | modifiers => rfl
  | set h hts =>
    have hnodup := h.nodup_iff.mpr (SortedSet.nodup_of_sorted hts)
    rw [document, documents_texts]
    change (do return Document.list (← Document.sorted (_ : List Document))) = _
    rw [sorted_texts hnodup, SortedSet.toList_ofList_of_perm h hts]
    rfl
  | variant kind h =>
    rw [document, h.documents_eq]
    rfl

theorem FieldsTell.documents_eq {fields : List (String × Part)} {fs : List (String × Document)}
    (h : FieldsTell fields fs) : fieldDocuments fields = .ok fs := by
  cases h with
  | nil => rfl
  | cons k h hs =>
    rw [fieldDocuments, h.document_eq, hs.documents_eq]
    rfl

end

end Part

structure Sketch.Step.Draws (k : Sketch.Step) (s : ScenarioScript.Step) : Prop where
  id : k.id = text s.id
  description : k.description = text s.description
  action : ∃ kind fields, k.action = .variant kind fields ∧ k.action.Tells s.action.document
  expected : k.expected = ofOption text s.expected
  timeout : k.timeout = ofOption int s.timeout
  retries : k.retries = int s.retries
  continueOnFailure : k.continueOnFailure = bool s.continueOnFailure

structure Sketch.Draws (k : Sketch) (s : Scenario) : Prop where
  id : k.id = text s.id
  name : k.name = text s.name
  description : k.description = text s.description
  startUrl : k.startUrl = text s.startUrl
  steps : List.Forall₂ Sketch.Step.Draws k.steps s.steps
  tags : k.tags.Tells (texts s.tags.toList)
  priority : k.priority = s.priority

namespace Sketch

lemma Step.Draws.document_eq {k : Step} {s : ScenarioScript.Step} (h : k.Draws s) :
    k.document = .ok s.document := by
  obtain ⟨kind, fields, hvariant, htells⟩ := h.action
  have haction : actionDocument k.action = .ok s.action.document := by
    rw [← htells.document_eq, hvariant]
    rfl
  rw [document, haction, h.id, h.description, h.expected, h.timeout, h.retries, h.continueOnFailure]
  rfl

lemma mapM_document_eq {ks : List Step} {ss : List ScenarioScript.Step}
    (h : List.Forall₂ Step.Draws ks ss) :
    ks.mapM Step.document = .ok (ss.map ScenarioScript.Step.document) := by
  induction h with
  | nil => rfl
  | cons h _ ih =>
    rw [List.mapM_cons, h.document_eq, ih]
    rfl

lemma Draws.fields_eq {k : Sketch} {s : Scenario} (h : k.Draws s) : k.fields = .ok s.fields := by
  rw [fields, h.tags.document_eq, mapM_document_eq h.steps, h.id, h.name, h.description, h.startUrl,
    h.priority]
  rfl

end Sketch

def Document.Increasing (d : Document) : Prop :=
  ∃ words : List String, d = texts words ∧ words.Pairwise (· < ·)

def Document.setNames : List String :=
  ["tags", "modifiers"]

lemma Document.mem_setNames {k : String} : k ∈ setNames ↔ k = "tags" ∨ k = "modifiers" := by
  simp [setNames]

section Named

variable {k : String}

lemma Document.named_ofOption {α : Type} {f : α → Document} (hf : ∀ a, (f a).named k = [])
    (o : Option α) : (ofOption f o).named k = [] := by
  cases o with
  | none => rfl
  | some a => exact hf a

lemma Document.named_ofOption_text (o : Option String) : (ofOption text o).named k = [] :=
  named_ofOption (fun _ => rfl) o

lemma Document.named_ofOption_int (o : Option Int) : (ofOption int o).named k = [] :=
  named_ofOption (fun _ => rfl) o

lemma WaitCondition.named_document (hk : k ∈ setNames) (c : WaitCondition) :
    c.document.named k = [] := by
  rcases mem_setNames.mp hk with rfl | rfl <;> cases c <;>
    simp [WaitCondition.document, Document.variant, named, namedBelow]

lemma Assertion.named_document (hk : k ∈ setNames) (a : Assertion) : a.document.named k = [] := by
  rcases mem_setNames.mp hk with rfl | rfl <;> cases a <;>
    simp [Assertion.document, Document.variant, named, namedBelow]

lemma Action.increasing_of_named (hk : k ∈ setNames) (a : Action) {d : Document}
    (hd : d ∈ a.document.named k) : d.Increasing := by
  have hcondition := WaitCondition.named_document hk
  have hassertion := Assertion.named_document hk
  cases a with
  | pressKey key m =>
    simp only [Action.document, Document.variant, named, namedBelow, Modifiers.document,
      named_texts] at hd
    rcases mem_setNames.mp hk with rfl | rfl
    · simp at hd
    · exact ⟨_, by simpa using hd, m.sorted_spelled⟩
  | _ =>
    rcases mem_setNames.mp hk with rfl | rfl <;>
      simp [Action.document, Document.variant, named, namedBelow, named_ofOption_text,
        named_ofOption_int, hcondition, hassertion] at hd

lemma Step.increasing_of_named (hk : k ∈ setNames) (s : Step) {d : Document}
    (hd : d ∈ s.document.named k) : d.Increasing := by
  refine s.action.increasing_of_named hk ?_
  rcases mem_setNames.mp hk with rfl | rfl <;>
    simpa [Step.document, named, namedBelow, named_ofOption_text, named_ofOption_int] using hd

lemma Scenario.increasing_of_named (hk : k ∈ setNames) (s : Scenario) {d : Document}
    (hd : d ∈ s.document.named k) : d.Increasing := by
  have hparts : d = texts s.tags.toList ∨ ∃ t ∈ s.steps, d ∈ t.document.named k := by
    simp only [Scenario.document, Scenario.fields, named, namedBelow, named_texts,
      namedAmong_eq_flatMap] at hd
    rcases mem_setNames.mp hk with rfl | rfl
    · simpa using hd
    · exact .inr (by simpa using hd)
  rcases hparts with rfl | ⟨t, -, hd⟩
  · exact ⟨_, rfl, s.tags.sorted⟩
  · exact t.increasing_of_named hk hd

end Named

theorem Scenario.document_faithful (s : Scenario) :
    (∀ t : Scenario, s.document.Same t.document ↔ s = t) ∧
    (∀ k ∈ setNames, ∀ d ∈ s.document.named k, d.Increasing) ∧
    (∀ k : Sketch, k.Draws s → k.fields = .ok s.fields) ∧
    ∀ path d, s.document.at? path = some d → (Part.ofDocument d).document = .ok d :=
  ⟨fun _ => same_document_iff, fun _ hk _ hd => s.increasing_of_named hk hd,
    fun _ hk => hk.fields_eq, fun _ d _ => Part.document_ofDocument d⟩

def Scenario.saving : Scenario :=
  ⟨"s", "Saving", "", "",
    [⟨"step_1", "Save", .pressKey "s" (.ofList [.ctrl, .shift]), none, none, 0, false⟩],
    .ofList ["auth", "smoke"], .high⟩

def Sketch.saving : Sketch where
  id := text "s"
  name := text "Saving"
  description := text ""
  startUrl := text ""
  steps := [{
    id := text "step_1"
    description := text "Save"
    action := .variant "press_key" [("key", .plain (text "s")),
      ("modifiers", .set (["shift", "ctrl"].map fun s => .plain (text s)))]
    expected := null
    timeout := null
    retries := int 0
    continueOnFailure := bool false }]
  tags := .set (["smoke", "auth"].map fun s => .plain (text s))
  priority := .high

theorem Scenario.document_faithful_saving : Sketch.saving.fields = .ok Scenario.saving.fields := by
  refine (document_faithful saving).2.2.1 Sketch.saving ⟨rfl, rfl, rfl, rfl, ?_, ?_, rfl⟩
  · refine .cons ⟨rfl, rfl, ⟨_, _, rfl, ?_⟩, rfl, rfl, rfl, rfl⟩ .nil
    exact .variant "press_key" (.cons "key" (.plain (text "s"))
      (.cons "modifiers" (.set (.swap "ctrl" "shift" []) (by decide)) .nil))
  · exact .set (.swap "auth" "smoke" []) (by decide)

end ScenarioScript
