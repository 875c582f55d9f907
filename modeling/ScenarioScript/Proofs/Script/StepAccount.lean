import ScenarioScript.Proofs.Lexeme.Order
import ScenarioScript.Proofs.Script.Openings
import ScenarioScript.Proofs.Script.WellFormed

namespace ScenarioScript

open scoped List

lemma filter_eq_singleton {α β : Type} [DecidableEq β] {f : α → β} {l : List α} {a : α}
    (h : (l.map f).Nodup) (ha : a ∈ l) : l.filter (fun b => f b = f a) = [a] := by
  induction l with
  | nil => simp at ha
  | cons b l ih =>
    obtain ⟨hb, hl⟩ := List.nodup_cons.mp h
    rcases List.mem_cons.mp ha with rfl | ha
    · have hnil : l.filter (fun c => f c = f a) = [] := by
        refine List.filter_eq_nil_iff.mpr fun c hc he => hb ?_
        exact List.mem_map.mpr ⟨c, hc, by simpa using he⟩
      simp [hnil]
    · have hne : f b ≠ f a := fun he => hb (he ▸ List.mem_map_of_mem ha)
      simp [hne, ih hl ha]

namespace Script

variable {settings : Settings}

def numbers (settings : Settings) (n : ℕ) (bs : List Block) : List ℕ :=
  ((bs.zipIdx n).filter (·.1.acts settings)).map (·.2)

lemma sublist_numbers (settings : Settings) (n : ℕ) (bs : List Block) :
    numbers settings n bs <+ List.range' n bs.length := by
  rw [← List.zipIdx_map_snd]
  exact List.filter_sublist.map _

lemma map_id_numbered (settings : Settings) (n : ℕ) (bs : List Block) :
    (numbered settings n bs).map (·.id) = (numbers settings n bs).map stepId := by
  induction bs generalizing n with
  | nil => rfl
  | cons b bs ih =>
    have ih := ih (n + 1)
    have hacts := Block.isSome_step? settings (stepId n) b
    simp only [numbered, numbers] at ih
    cases hs : b.step? settings (stepId n) with
    | none =>
      rw [hs] at hacts
      simp [numbered, numbers, hs, ← hacts, ih]
    | some s =>
      rw [hs] at hacts
      simp [numbered, numbers, hs, ← hacts, ih, Block.id_step hs]

lemma mem_numbered {bs : List Block} {s : Step} :
    s ∈ numbered settings 0 bs ↔
      ∃ (j : ℕ) (b : Block), bs[j]? = some b ∧ b.step? settings (stepId j) = some s := by
  rw [numbered, List.mem_filterMap]
  constructor
  · rintro ⟨⟨b, j⟩, hb, hs⟩
    exact ⟨j, b, List.mk_mem_zipIdx_iff_getElem?.mp hb, hs⟩
  · rintro ⟨j, b, hb, hs⟩
    exact ⟨(b, j), List.mk_mem_zipIdx_iff_getElem?.mpr hb, hs⟩

lemma length_missed_add_length_numbered (settings : Settings) (n : ℕ) (bs : List Block) :
    (missed settings bs).length + (numbered settings n bs).length = bs.length := by
  induction bs generalizing n with
  | nil => rfl
  | cons b bs ih =>
    have ih := ih (n + 1)
    have hacts := Block.isSome_step? settings (stepId n) b
    simp only [numbered, missed, List.length_map] at ih ⊢
    rw [List.zipIdx_cons, List.filterMap_cons, List.filter_cons]
    cases hs : b.step? settings (stepId n) <;> rw [hs] at hacts <;> simp [← hacts] <;> omega

def descriptionAhead (ts : List Token) : String :=
  (Arguments.front? .string ts).getD ""

def faultAt (p : Token × List Token) : Fault :=
  ⟨p.1.line, p.1.column, .stepWithoutAction (descriptionAhead p.2)⟩

lemma fault_read (p : Token × List Token) : (Block.read p.1 p.2).1.fault = faultAt p := by
  rw [Block.fault, Block.head_read, Block.description_read_eq]
  rfl

lemma nodup_openings (text : String) :
    ((openings (Token.ofText text)).map (·.1.place)).Nodup := by
  have hsub := (sublist_openings (Token.ofText text)).map Token.place
  rw [List.map_map] at hsub
  have hlt := (Token.pairwise_ofText text).map Token.place fun _ _ h => h
  exact (hlt.sublist hsub).imp fun h => h.ne

end Script

def Fault.ofStep (f : Fault) : Bool :=
  match f.cause with
  | .stepWithoutAction _ => true
  | _ => false

namespace Script

variable {settings : Settings}

lemma ofStep_of_mem_missed {bs : List Block} {f : Fault} (h : f ∈ missed settings bs) :
    f.ofStep = true := by
  obtain ⟨b, -, rfl⟩ := List.mem_map.mp h
  rfl

lemma filter_faults_reading {d : Draft} {bs : List Block} (h : d.faults = missed settings bs) :
    d.reading.faults.filter Fault.ofStep = missed settings bs := by
  rw [Draft.faults_reading, h, List.filter_append,
    List.filter_eq_self.mpr fun f hf => ofStep_of_mem_missed hf]
  split <;> simp [Fault.ofStep]

lemma missed_openings (settings : Settings) (ps : List (Token × List Token)) :
    missed settings (ps.map fun p => (Block.read p.1 p.2).1) =
      (ps.filter fun p => !(Block.read p.1 p.2).1.acts settings).map faultAt := by
  rw [missed, List.filter_map, List.map_map]
  exact List.map_congr_left fun p _ => fault_read p

section Account

variable {text : String} {j : ℕ} {p : Token × List Token}
  (hp : (openings (Token.ofText text))[j]? = some p)

include hp

lemma filter_numbered_of_acts (ha : (Block.read p.1 p.2).1.acts settings = true) :
    ∃ s, (numbered settings 0 (blocks (Token.ofText text))).filter (·.id = stepId j) = [s] ∧
      s.description = descriptionAhead p.2 := by
  set b := (Block.read p.1 p.2).1 with hb
  rw [← Block.isSome_step? settings (stepId j)] at ha
  obtain ⟨s, hs⟩ := Option.isSome_iff_exists.mp ha
  have hj : (blocks (Token.ofText text))[j]? = some b := by
    rw [blocks_eq_map, List.getElem?_map, hp]
    rfl
  have hid : s.id = stepId j := Block.id_step hs
  have hnodup : ((numbered settings 0 (blocks (Token.ofText text))).map (·.id)).Nodup := by
    rw [map_id_numbered]
    exact (List.Nodup.sublist (sublist_numbers settings 0 _) List.nodup_range').map stepId_injective
  refine ⟨s, ?_, ?_⟩
  · rw [← hid]
    exact filter_eq_singleton hnodup (mem_numbered.mpr ⟨j, b, hj, hs⟩)
  · obtain ⟨a, -, rfl⟩ := Option.map_eq_some_iff.mp hs
    exact Block.description_read_eq p.1 p.2

lemma filter_numbered_of_not_acts (ha : (Block.read p.1 p.2).1.acts settings = false) :
    (numbered settings 0 (blocks (Token.ofText text))).filter (·.id = stepId j) = [] := by
  refine List.filter_eq_nil_iff.mpr fun s hs hid => ?_
  obtain ⟨i, b, hb, hs⟩ := mem_numbered.mp hs
  rw [decide_eq_true_eq, Block.id_step hs] at hid
  obtain rfl := stepId_injective hid
  rw [blocks_eq_map, List.getElem?_map, hp, Option.map_some, Option.some.injEq] at hb
  rw [hb, Block.acts_of_step? hs] at ha
  contradiction

lemma filter_missed :
    (missed settings (blocks (Token.ofText text))).filter
        (fun f => f.line = p.1.line ∧ f.column = p.1.column) =
      if (Block.read p.1 p.2).1.acts settings then [] else [faultAt p] := by
  set ps := openings (Token.ofText text)
  have hmem : p ∈ ps := List.mem_of_getElem? hp
  have hnodup : (ps.map (·.1.place)).Nodup := nodup_openings text
  have hplace (q : Token × List Token) :
      decide ((faultAt q).line = p.1.line ∧ (faultAt q).column = p.1.column) =
        decide (q.1.place = p.1.place) :=
    decide_eq_decide.mpr (by simp [faultAt, Token.place])
  rw [blocks_eq_map, missed_openings, List.filter_map]
  simp only [Function.comp_def, hplace]
  cases ha : (Block.read p.1 p.2).1.acts settings with
  | true =>
    -- No two openings stand at one place, so none that gives a fault stands at this one.
    have hnil : (ps.filter fun q => !(Block.read q.1 q.2).1.acts settings).filter
        (fun q => q.1.place = p.1.place) = [] := by
      refine List.filter_eq_nil_iff.mpr fun q hq he => ?_
      obtain ⟨hq, hna⟩ := List.mem_filter.mp hq
      obtain rfl := List.inj_on_of_nodup_map hnodup hq hmem (by simpa using he)
      simp [ha] at hna
    rw [hnil]
    rfl
  | false =>
    have hkept : p ∈ ps.filter fun q => !(Block.read q.1 q.2).1.acts settings :=
      List.mem_filter.mpr ⟨hmem, by simp [ha]⟩
    have hone := filter_eq_singleton (f := fun q : Token × List Token => q.1.place)
      (List.Nodup.sublist (List.filter_sublist.map _) hnodup) hkept
    rw [hone]
    rfl

end Account

lemma items_found (settings : Settings) (ts : List Token) :
    ∃ found c, (Walk.items settings).on (Cursor.ofTokens ts) = (.ok found, c) ∧
      found.draft c = Draft.empty.addAll settings (outline ts) :=
  Walk.items_ends settings (Cursor.ofTokens ts)

/-- Each step word that is handed over gives its step, under its number and with the string behind it
as its description, or else a fault at its own place that names the description. There are no other
steps and no other faults of steps, whether or not the scenario has a name. -/
theorem steps_accounted (settings : Settings) (text : String) :
    ∃ found c, (Walk.items settings).on (Cursor.ofTokens (Token.ofText text)) = (.ok found, c) ∧
      (read settings text).scenario =
        (if found.name.isEmpty then none else some found.scenario) ∧
      (openings (Token.ofText text)).map (·.1) <+ Token.ofText text ∧
      (∀ p ∈ openings (Token.ofText text),
        p.1.is .step = true ∧ p.1 :: p.2 <:+ Token.ofText text) ∧
      (∀ j p, (openings (Token.ofText text))[j]? = some p →
        Xor
          (∃ s, found.steps.filter (·.id = stepId j) = [s] ∧ s.description = descriptionAhead p.2)
          (((read settings text).faults.filter Fault.ofStep).filter
            (fun f => f.line = p.1.line ∧ f.column = p.1.column) = [faultAt p])) ∧
      (∃ js : List ℕ, js.Pairwise (· < ·) ∧
        (∀ j ∈ js, j < (openings (Token.ofText text)).length) ∧
        found.steps.map (·.id) = js.map stepId) ∧
      (∀ f ∈ (read settings text).faults.filter Fault.ofStep,
        ∃ p ∈ openings (Token.ofText text), f = faultAt p) ∧
      ((read settings text).faults.filter Fault.ofStep).length + found.steps.length =
        (openings (Token.ofText text)).length := by
  set ts := Token.ofText text
  obtain ⟨found, c, hfound, hdraft⟩ := items_found settings ts
  obtain ⟨-, hsteps, hfaults⟩ := Draft.addAll_blocks settings Draft.empty (outline ts)
  rw [← hdraft] at hsteps hfaults
  change found.steps = numbered settings 0 (blocks ts) at hsteps
  change c.faults = missed settings (blocks ts) at hfaults
  have hread : read settings text = (found.draft c).reading := by
    rw [read_eq, ofTokens, hdraft]
  have hmissed : (read settings text).faults.filter Fault.ofStep = missed settings (blocks ts) := by
    rw [hread]
    exact filter_faults_reading hfaults
  have hlen : (blocks ts).length = (openings ts).length := by rw [blocks_eq_map, List.length_map]
  have hnumbers := sublist_numbers settings 0 (blocks ts)
  refine ⟨found, c, hfound, ?_⟩
  rw [hmissed, hsteps]
  refine ⟨?_, sublist_openings ts, of_mem_openings, ?_, ?_, ?_, ?_⟩
  · rw [hread, Draft.scenario_reading]
    rfl
  · intro j p hp
    rw [filter_missed hp]
    cases ha : (Block.read p.1 p.2).1.acts settings with
    | true => exact .inl ⟨filter_numbered_of_acts hp ha, by simp⟩
    | false =>
      rw [filter_numbered_of_not_acts hp ha]
      exact .inr ⟨rfl, by simp⟩
  · refine ⟨numbers settings 0 (blocks ts), List.Pairwise.sublist hnumbers (List.pairwise_lt_range' 1),
      fun j hj => ?_, map_id_numbered settings 0 _⟩
    have hj := List.mem_range'_1.mp (hnumbers.subset hj)
    omega
  · rw [blocks_eq_map, missed_openings]
    intro f hf
    obtain ⟨p, hp, rfl⟩ := List.mem_map.mp hf
    exact ⟨p, List.mem_of_mem_filter hp, rfl⟩
  · rw [length_missed_add_length_numbered, hlen]

end Script

end ScenarioScript
