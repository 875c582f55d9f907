import ScenarioScript.Document.Model
import ScenarioScript.Finding
import ScenarioScript.Proofs.Action
import ScenarioScript.Proofs.Draft
import ScenarioScript.Proofs.Entry
import ScenarioScript.Proofs.Walk.Script
import ScenarioScript.Proofs.Walk.Settled

namespace ScenarioScript

open Decimal Document

structure Settings.Writable (s : Settings) : Prop where
  waitTimeout : isShort s.waitTimeout = true
  scrollAmount : isShort s.scrollAmount = true

namespace Document

lemma areWritable_iff {ds : List Document} : areWritable ds = true ↔ ∀ d ∈ ds, d.isWritable = true := by
  induction ds with
  | nil => simp [areWritable]
  | cons d ds ih => simp [areWritable, ih]

lemma haveWritable_iff {fs : List (String × Document)} :
    haveWritable fs = true ↔ ∀ f ∈ fs, f.2.isWritable = true := by
  induction fs with
  | nil => simp [haveWritable]
  | cons f fs ih => simp [haveWritable, ih]

lemma isWritable_variant {type : String} {fs : List (String × Document)} :
    (variant type fs).isWritable = true ↔ ∀ f ∈ fs, f.2.isWritable = true := by
  simp [variant, isWritable, haveWritable, haveWritable_iff]

lemma isWritable_texts (ss : List String) : (texts ss).isWritable = true :=
  areWritable_iff.mpr fun d hd => by
    obtain ⟨s, -, rfl⟩ := List.mem_map.mp hd
    rfl

lemma isWritable_ofOption {α : Type} {f : α → Document} {o : Option α} :
    (ofOption f o).isWritable = true ↔ ∀ a ∈ o, (f a).isWritable = true := by
  cases o <;> simp [ofOption, isWritable]

end Document

lemma Settings.Writable.numbers {s : Settings} (hs : s.Writable) :
    ∀ n ∈ s.numbers, isShort n = true := by
  have hdefault : isShort defaultDuration = true := by decide
  simp [Settings.numbers, hdefault, hs.waitTimeout, hs.scrollAmount]

lemma WaitCondition.isWritable_document {c : WaitCondition}
    (h : ∀ n ∈ c.numbers, isShort n = true) : c.document.isWritable = true := by
  cases c with
  | textPresent | urlContains => rfl
  | _ => simpa [document, numbers, variant, isWritable, haveWritable] using h

namespace Action

variable {settings : Settings} {args : List Token} {a : Action}

lemma isWritable_document (ha : a.Coherent) (h : ∀ n ∈ a.numbers, isShort n = true) :
    a.document.isWritable = true := by
  have htext (o : Option String) : (ofOption text o).isWritable = true :=
    isWritable_ofOption.mpr fun _ _ => rfl
  cases a with
  | click target button count =>
    have hcount : isShort count = true := by
      rcases ha with rfl | rfl <;> decide
    simpa [document, numbers, variant, isWritable, haveWritable, hcount] using h
  | scroll direction amount target =>
    obtain ⟨hamount, htarget⟩ := List.forall_mem_cons.mp h
    have ht : (ofOption int target).isWritable = true :=
      isWritable_ofOption.mpr fun n hn => htarget n (Option.mem_toList.mpr hn)
    simp [document, variant, isWritable, haveWritable, hamount, ht]
  | wait condition timeout =>
    obtain ⟨htimeout, hcondition⟩ := List.forall_mem_cons.mp h
    simp [document, variant, isWritable, haveWritable, htimeout,
      WaitCondition.isWritable_document hcondition]
  | pressKey key modifiers =>
    have hm : modifiers.document.isWritable = true := isWritable_texts _
    simp [document, variant, isWritable, haveWritable, hm]
  | assert target assertion =>
    have hassertion : assertion.document.isWritable = true := by
      cases assertion <;> rfl
    simpa [document, numbers, variant, isWritable, haveWritable, hassertion] using h
  | select target value label index =>
    obtain ⟨htarget, hindex⟩ := List.forall_mem_cons.mp h
    have hi : (ofOption int index).isWritable = true :=
      isWritable_ofOption.mpr fun n hn => hindex n (Option.mem_toList.mpr hn)
    simp [document, variant, isWritable, haveWritable, htarget, hi, htext]
  | type | hover | uploadFile =>
    simpa [document, numbers, variant, isWritable, haveWritable] using h
  | navigate | goBack | goForward | refresh | screenshot => rfl

lemma isWritable_of_ofSpan (hs : settings.Writable) {head : Token}
    (h : ofSpan settings head args = .ok a) : a.document.isWritable = true := by
  obtain ⟨k, -, hk⟩ := ofSpan_eq_ok_iff.mp h
  have hgathers := gathers_of_ofArguments? hk
  refine isWritable_document hgathers.coherent fun n hn => ?_
  rcases hgathers.named.numbers n hn with ⟨u, -, hread⟩ | hn
  · exact isShort_of_read? hread
  · exact hs.numbers n hn

end Action

lemma Block.isWritable_step? {settings : Settings} (hs : settings.Writable) {b : Block} {id : String}
    {s : Step} (h : b.step? settings id = some s) : s.document.isWritable = true := by
  obtain ⟨⟨head, args, -, haction⟩, -, htimeout, hretries⟩ := settles_of_step? h
  have hms : (ofOption int s.timeout).isWritable = true := isWritable_ofOption.mpr fun n hn => by
    obtain ⟨u, -, hread⟩ := htimeout n hn
    exact isShort_of_read? hread
  have hcount : isShort s.retries = true := by
    rcases hretries with hzero | ⟨-, u, -, hread⟩
    · rw [hzero]
      decide
    · exact isShort_of_read? hread
  have hexpected : (ofOption text s.expected).isWritable = true :=
    isWritable_ofOption.mpr fun _ _ => rfl
  simp [Step.document, isWritable, haveWritable, Action.isWritable_of_ofSpan hs haction, hms,
    hexpected, hcount]

lemma Script.isWritable_of_read {settings : Settings} (hs : settings.Writable) {text : String}
    {s : Scenario} (h : (read settings text).scenario = some s) : s.document.isWritable = true := by
  rw [read_eq, ofTokens, Draft.scenario_reading] at h
  split at h
  · simp at h
  · obtain rfl := Option.some.inj h
    have hsteps : ∀ t ∈ (Draft.empty.addAll settings (outline (Token.ofText text))).steps,
        t.document.isWritable = true := by
      rw [(Draft.addAll_blocks settings Draft.empty _).2.1]
      intro t ht
      obtain ⟨⟨b, j⟩, -, hb⟩ := List.mem_filterMap.mp (List.nil_append _ ▸ ht)
      exact Block.isWritable_step? hs hb
    have hlist : areWritable ((Draft.empty.addAll settings (outline (Token.ofText text))).steps.map
        Step.document) = true :=
      areWritable_iff.mpr fun d hd => by
        obtain ⟨t, ht, rfl⟩ := List.mem_map.mp hd
        exact hsteps t ht
    simp [Scenario.document, Scenario.fields, isWritable, haveWritable, isWritable_texts, hlist]

def Flaw.Writable (fs : List Flaw) : Prop :=
  ∀ f ∈ fs, ∀ d ∈ f.subject?, d.isWritable = true

lemma Flaw.writable_append {fs gs : List Flaw} : Writable (fs ++ gs) ↔ Writable fs ∧ Writable gs :=
  List.forall_mem_append

lemma Flaw.writable_ite {p : Prop} [Decidable p] {f : Flaw}
    (h : ∀ d ∈ f.subject?, d.isWritable = true) : Writable (if p then [f] else []) := by
  by_cases hp : p
  · simpa [Writable, hp] using h
  · simp [Writable, hp]

open Flaw

lemma Action.writable_flaws {a : Action} (h : a.document.isWritable = true) : Flaw.Writable a.flaws := by
  cases a with
  | wait condition timeout =>
    simp only [document, variant, isWritable, haveWritable, Bool.and_eq_true] at h
    obtain ⟨-, hcondition, htimeout, -⟩ := h
    refine writable_append.mpr ⟨writable_ite (by simpa [subject?, isWritable] using htimeout), ?_⟩
    cases condition with
    | duration ms =>
      simp only [WaitCondition.document, variant, isWritable, haveWritable,
        Bool.and_eq_true] at hcondition
      exact writable_ite (by simpa [subject?, isWritable] using hcondition.2.1)
    | _ => simp [WaitCondition.flaws, Flaw.Writable]
  | scroll direction amount target =>
    simp only [document, variant, isWritable, haveWritable, Bool.and_eq_true] at h
    exact writable_ite (by simpa [subject?, isWritable] using h.2.2.1)
  | select target value label index =>
    simp only [document, variant, isWritable, haveWritable, Bool.and_eq_true] at h
    obtain ⟨-, -, -, -, hindex, -⟩ := h
    cases index with
    | some i => exact writable_ite (by simpa [subject?, isWritable, ofOption] using hindex)
    | none => exact writable_ite (by simp [subject?])
  | navigate | type | screenshot => exact writable_ite (by simp [subject?])
  | _ => simp [flaws, Flaw.Writable]

lemma Step.writable_flaws {s : Step} (h : s.document.isWritable = true) : Flaw.Writable s.flaws := by
  simp only [document, isWritable, haveWritable, Bool.and_eq_true] at h
  obtain ⟨-, -, haction, -, htimeout, hretries, -⟩ := h
  refine writable_append.mpr ⟨writable_append.mpr ⟨?_, ?_⟩, s.action.writable_flaws haction⟩
  · cases hms : s.timeout with
    | none => simp [Flaw.Writable]
    | some ms => exact writable_ite (by simpa [subject?, isWritable, ofOption, hms] using htimeout)
  · exact writable_ite (by simpa [subject?, isWritable] using hretries)

lemma Step.writable_findings {ss : List Step} (h : ∀ s ∈ ss, s.document.isWritable = true) (i : Nat) :
    ∀ f ∈ findings i ss, ∀ d ∈ f.flaw.subject?, d.isWritable = true := by
  induction ss generalizing i with
  | nil => simp [findings]
  | cons s ss ih =>
    intro f hf
    rcases List.mem_append.mp hf with hf | hf
    · obtain ⟨flaw, hflaw, rfl⟩ := List.mem_map.mp hf
      exact writable_flaws (h s (by simp)) flaw hflaw
    · exact ih (fun t ht => h t (by simp [ht])) (i + 1) f hf

lemma Scenario.isWritable_verdict {s : Scenario} (h : s.document.isWritable = true) :
    s.verdict.isWritable = true := by
  simp only [document, fields, isWritable, haveWritable, Bool.and_eq_true, areWritable_iff] at h
  have hsteps : ∀ t ∈ s.steps, t.document.isWritable = true :=
    fun t ht => h.2.2.2.2.2.2.1 _ (List.mem_map_of_mem ht)
  have hnone {p : Prop} [Decidable p] {f : Flaw} (hf : f.subject? = none) :
      ∀ g ∈ (if p then [⟨none, f⟩] else [] : List Finding), ∀ d ∈ g.flaw.subject?,
        d.isWritable = true := by
    by_cases hp : p <;> simp [hp, hf]
  have hall : ∀ f ∈ s.findings, ∀ d ∈ f.flaw.subject?, d.isWritable = true := by
    intro f hf
    simp only [findings, List.mem_append] at hf
    rcases hf with ((hf | hf) | hf) | hf
    · exact hnone rfl f hf
    · exact hnone rfl f hf
    · exact Step.writable_findings hsteps 0 f hf
    · exact hnone rfl f hf
  rw [Verdict.isWritable, List.all_eq_true]
  intro f hf
  have hmem : f ∈ s.findings := by
    rcases List.mem_append.mp hf with hf | hf <;> exact (List.mem_filter.mp hf).1
  simpa [Option.all_eq_true] using hall f hmem

end ScenarioScript
