import Mathlib.Algebra.BigOperators.Group.List.Basic
import Mathlib.Algebra.GroupWithZero.Nat
import ScenarioScript.Proofs.Block
import ScenarioScript.Proofs.Entry.Runs
import ScenarioScript.Proofs.Walk.Script

/-! Where the step words of a script go: each begins a block or stands inside of one. -/

namespace ScenarioScript

open scoped List

def stepWords (ts : List Token) : ℕ :=
  ts.countP (·.is .step)

lemma stepWords_append (ts us : List Token) : stepWords (ts ++ us) = stepWords ts + stepWords us :=
  List.countP_append

lemma stepWords_cons_of_is {t : Token} (h : t.is .step = true) (ts : List Token) :
    stepWords (t :: ts) = stepWords ts + 1 :=
  List.countP_cons_of_pos h

lemma stepWords_cons_of_not {t : Token} (h : t.is .step = false) (ts : List Token) :
    stepWords (t :: ts) = stepWords ts :=
  List.countP_cons_of_neg (by simp [h])

namespace Block

lemma stepWords_inner (depth : ℕ) (ts : List Token) :
    stepWords ts = stepWords (inner depth ts).tokens + stepWords (inner depth ts).rest := by
  fun_induction inner depth ts with
  | case1 => rfl
  | case2 d t ts hk ih => rw [stepWords_cons_of_not (Token.is_eq_false_of_kind_ne (by simp [hk]) _), ih]
  | case3 t ts hk =>
    rw [stepWords_cons_of_not (Token.is_eq_false_of_kind_ne (by simp [hk]) _)]
    exact (Nat.zero_add _).symm
  | case4 t ts d hk ih => rw [stepWords_cons_of_not (Token.is_eq_false_of_kind_ne (by simp [hk]) _), ih]
  | case5 d t ts _ _ _ ih =>
    change stepWords ([t] ++ ts) =
      stepWords ([t] ++ (inner d ts).tokens) + stepWords (inner d ts).rest
    rw [stepWords_append, stepWords_append, ih, Nat.add_assoc]

lemma stepWords_outer (ts : List Token) :
    stepWords ts = stepWords (outer ts).tokens + stepWords (outer ts).rest := by
  fun_induction outer ts with
  | case1 => rfl
  | case2 t ts _ => exact (Nat.zero_add _).symm
  | case3 t ts h _ => rw [stepWords_cons_of_not (by simpa using h), stepWords_inner 0 ts]
  | case4 t ts h _ =>
    rw [stepWords_cons_of_not (by simpa using h)]
    exact (Nat.zero_add _).symm
  | case5 t ts h _ _ ih => rw [stepWords_cons_of_not (by simpa using h), ih]

lemma stepWords_read (head : Token) (ts : List Token) :
    stepWords ts = stepWords (read head ts).1.body + stepWords (read head ts).2 := by
  unfold read
  split
  · rfl
  · next t rest =>
    split
    · next hk =>
      rw [stepWords_cons_of_not (Token.is_eq_false_of_kind_ne (by simp [hk]) _), stepWords_outer rest]
    · exact stepWords_outer (t :: rest)

end Block

namespace Item

lemma stepWords_setting (kind : TokenKind) (item : Token → Item) (ts : List Token) :
    stepWords (setting kind item ts).2 = stepWords ts := by
  unfold setting
  split
  · next t h =>
    cases ts with
    | nil => simp [value?] at h
    | cons u us =>
      have hu : u.is .step = false := by
        by_contra hs
        simp [value?, show u.is .step = true by simpa using hs] at h
      exact (stepWords_cons_of_not hu us).symm
  · rfl

lemma filterMap_setting {α : Type} {f : Item → Option α} {kind : TokenKind} {item : Token → Item}
    (h : ∀ t, f (item t) = none) (ts : List Token) : (setting kind item ts).1.filterMap f = [] := by
  unfold setting
  split <;> simp [h]

lemma stepWords_readAt (t : Token) (ts : List Token) :
    stepWords (t :: ts) =
      (((readAt t ts).1.filterMap block?).map fun b => 1 + stepWords b.body).sum +
        stepWords (readAt t ts).2 := by
  by_cases ht : t.is .step = true
  · have hk : t.keyword = some .step := by simpa [Token.is] using ht
    rw [stepWords_cons_of_is ht, Block.stepWords_read t ts]
    simp only [readAt, hk, List.filterMap_cons, block?, List.filterMap_nil, List.map_cons, List.map_nil,
      List.sum_cons, List.sum_nil]
    omega
  · have hk : t.keyword ≠ some .step := by simpa [Token.is] using ht
    rw [stepWords_cons_of_not (by simpa using ht)]
    unfold readAt
    split <;>
      first
        | (rw [stepWords_setting, filterMap_setting (fun _ => rfl)]; simp)
        | contradiction
        | simp

end Item

namespace Script

def blocks (ts : List Token) : List Block :=
  (outline ts).filterMap Item.block?

lemma blocks_cons (t : Token) (ts : List Token) :
    blocks (t :: ts) = (Item.readAt t ts).1.filterMap Item.block? ++ blocks (Item.readAt t ts).2 := by
  rw [blocks, outline_cons, List.filterMap_append]
  rfl

lemma stepWords_eq_sum (ts : List Token) :
    stepWords ts = ((blocks ts).map fun b => 1 + stepWords b.body).sum := by
  fun_induction outline ts with
  | case1 => simp [blocks, outline_nil, stepWords]
  | case2 t ts ih =>
    rw [Item.stepWords_readAt, blocks_cons, List.map_append, List.sum_append, ih]

end Script

namespace Entry

lemma stepWords_readAt (t : Token) (ts : List Token) :
    stepWords (t :: ts) =
      (((readAt t ts).1.filterMap run?).map fun r => stepWords (r.1 :: r.2)).sum +
        stepWords (readAt t ts).2 := by
  cases hopens : t.opensRun with
  | true =>
    have hcut : (Span.cut t ts).1 ++ (Span.cut t ts).2 = ts := List.takeWhile_append_dropWhile
    rw [Runs.readAt_run hopens]
    simp only [run?, List.filterMap_cons, List.filterMap_nil, List.map_cons, List.map_nil,
      List.sum_cons, List.sum_nil, Nat.add_zero]
    rw [← stepWords_append, List.cons_append, hcut]
  | false =>
    have hquiet : t.is .step = false ∧ (readAt t ts).1.filterMap run? = [] := by
      rcases Runs.readAt_cases hopens ts with
        ⟨hkind, hread⟩ | ⟨hk, hread⟩ | ⟨k, kind, e, hk, ha, hread⟩
      · exact ⟨Token.is_eq_false_of_kind_ne hkind _, by rw [hread]; rfl⟩
      · exact ⟨by simp [Token.is, hk], by rw [hread]; rfl⟩
      · refine ⟨?_, List.filterMap_eq_nil_iff.mpr fun f hf => ?_⟩
        · have hne : k ≠ .step := by
            rintro rfl
            simp [argument?] at ha
          simp [Token.is, hk, hne]
        · rw [hread] at hf
          obtain ⟨u, -, -, rfl⟩ := of_mem_ofArgument hf
          exact run?_of_argument? ha u
    rw [stepWords_cons_of_not hquiet.1, hquiet.2, Runs.readAt_rest hopens, List.map_nil, List.sum_nil,
      Nat.zero_add]

lemma stepWords_eq_sum (ts : List Token) :
    stepWords ts = (((all ts).filterMap run?).map fun r => stepWords (r.1 :: r.2)).sum := by
  fun_induction all ts with
  | case1 => rfl
  | case2 t ts ih =>
    rw [stepWords_readAt, List.filterMap_append, List.map_append, List.sum_append, ih]

end Entry

namespace Block

def runs (b : Block) : List (Token × List Token) :=
  (Entry.all b.body).filterMap Entry.run?

lemma runs_of_step {settings : Settings} {b : Block} {id : String} {s : Step}
    (hs : b.step? settings id = some s) (hc : b.cautions settings = []) :
    ∃ head args, b.runs = [(head, args)] ∧ Action.ofSpan settings head args = .ok s.action ∧
      stepWords b.body = stepWords args := by
  obtain ⟨-, hd⟩ := List.append_eq_nil_iff.mp hc
  obtain ⟨a, ha, rfl⟩ := Option.map_eq_some_iff.mp hs
  obtain ⟨head, args, hr, ho⟩ := StepDraft.runs_eq_singleton rfl hd ha
  refine ⟨head, args, hr, ho, ?_⟩
  obtain ⟨k, hk, hka⟩ := Action.isAction_of_ofSpan ho
  have hne : head.is .step = false := by
    simp only [Token.is, hk, Option.some.injEq, decide_eq_false_iff_not]
    rintro rfl
    simp [Keyword.isAction] at hka
  rw [Entry.stepWords_eq_sum, hr]
  simp [stepWords_cons_of_not hne]

end Block

namespace Script.Draft

variable {settings : Settings}

def Clean (settings : Settings) (b : Block) : Prop :=
  b.cautions settings = [] ∧ ∃ id s, b.step? settings id = some s

lemma clean_of_addBlock {d : Draft} {b : Block} (hf : (d.addBlock settings b).faults = [])
    (hc : (d.addBlock settings b).cautions = []) :
    Clean settings b ∧ (d.addBlock settings b).steps.length = d.steps.length + 1 := by
  cases hs : b.step? settings (stepId d.blocks) with
  | none => simp [addBlock, hs] at hf
  | some s =>
    simp only [addBlock, hs, List.append_eq_nil_iff] at hc
    exact ⟨⟨hc.2, _, s, hs⟩, by simp [addBlock, hs]⟩

lemma clean_of_addAll {d : Draft} {is : List Item} (hf : (d.addAll settings is).faults = [])
    (hc : (d.addAll settings is).cautions = []) :
    (∀ b ∈ is.filterMap Item.block?, Clean settings b) ∧
      (d.addAll settings is).steps.length = d.steps.length + (is.filterMap Item.block?).length := by
  induction is generalizing d with
  | nil => simp [addAll]
  | cons i is ih =>
    rw [addAll_cons] at hf hc ⊢
    obtain ⟨hb, hl⟩ := ih hf hc
    cases hi : i.block? with
    | none =>
      rw [List.filterMap_cons_none hi, hl, (add_of_block?_none hi d).1]
      exact ⟨hb, rfl⟩
    | some b =>
      obtain rfl := Item.eq_step_of_block? hi
      have hp := prefix_addAll settings (d.add settings (.step b)) is
      have hf' := List.prefix_nil.mp (hf ▸ hp.1 : (d.addBlock settings b).faults <+: [])
      have hc' := List.prefix_nil.mp (hc ▸ hp.2 : (d.addBlock settings b).cautions <+: [])
      obtain ⟨hclean, hone⟩ := clean_of_addBlock hf' hc'
      rw [List.filterMap_cons_some hi, hl, add, hone]
      refine ⟨List.forall_mem_cons.mpr ⟨hclean, hb⟩, ?_⟩
      rw [List.length_cons]
      omega

end Script.Draft

namespace Script

def Unnested (ts : List Token) : Prop :=
  ∀ b ∈ blocks ts, ∀ t ∈ b.body, t.is .step = false

lemma stepWords_eq_zero {ts : List Token} : stepWords ts = 0 ↔ ∀ t ∈ ts, t.is .step = false := by
  simp [stepWords, List.countP_eq_zero]

/-- Of a script that passes without a caution, each step word begins a step, or it stands in the body
of another step, as an argument of its action. So none is lost iff none is nested. -/
theorem steps_of_clean_reading {settings : Settings} {text : String}
    (hs : (read settings text).success = true) (hc : (read settings text).cautions = []) :
    ∃ s, (read settings text).scenario = some s ∧
      stepWords (Token.ofText text) =
        s.steps.length + ((blocks (Token.ofText text)).map fun b => stepWords b.body).sum ∧
      (∀ b ∈ blocks (Token.ofText text), ∃ head args a, b.runs = [(head, args)] ∧
        Action.ofSpan settings head args = .ok a ∧ stepWords b.body = stepWords args) ∧
      (s.steps.length = stepWords (Token.ofText text) ↔ Unnested (Token.ofText text)) := by
  set ts := Token.ofText text with hts
  let d := Draft.empty.addAll settings (outline ts)
  have hread : read settings text = d.reading := read_eq settings text
  rw [hread] at hs hc ⊢
  have hname : ¬d.name.isEmpty = true := by
    intro h
    simp [Draft.reading, h, Reading.success] at hs
  rw [Draft.reading, if_neg hname] at hs hc ⊢
  have hf : d.faults = [] := by simpa [Reading.success] using hs
  obtain ⟨hb, hl⟩ := Draft.clean_of_addAll hf hc
  have hsum : stepWords ts = d.steps.length + ((blocks ts).map fun b => stepWords b.body).sum := by
    rw [stepWords_eq_sum, List.sum_map_add, hl]
    simp [blocks, Draft.empty]
  refine ⟨_, rfl, hsum, ?_, ?_⟩
  · intro b hbm
    obtain ⟨hbc, id, s, hbs⟩ := hb b hbm
    obtain ⟨head, args, hr, ho, hw⟩ := Block.runs_of_step hbs hbc
    exact ⟨head, args, s.action, hr, ho, hw⟩
  · have hz : ((blocks ts).map fun b => stepWords b.body).sum = 0 ↔ Unnested ts := by
      rw [List.sum_eq_zero_iff_forall_eq_nat]
      simp [Unnested, stepWords_eq_zero]
    change d.steps.length = stepWords ts ↔ _
    rw [← hz]
    omega

def balanced : String :=
  "scenario \"S\" \x7b\n  step \"a\" \x7b\n    click #1\n  \x7d\n" ++
    "  step \"b\" \x7b\n    refresh\n  \x7d\n\x7d\n"

theorem steps_of_balanced_reading :
    (read {} balanced).success = true ∧ (read {} balanced).cautions = [] ∧
      ∃ s, (read {} balanced).scenario = some s ∧
        s.steps.length = stepWords (Token.ofText balanced) := by
  have hs : (read {} balanced).success = true := by
    rw [read_eq]
    decide +kernel
  have hc : (read {} balanced).cautions = [] := by
    rw [read_eq]
    decide +kernel
  have hu : Unnested (Token.ofText balanced) := by
    unfold Unnested
    decide +kernel
  obtain ⟨s, hr, -, -, hn⟩ := steps_of_clean_reading hs hc
  exact ⟨hs, hc, s, hr, hn.mpr hu⟩

/-- The brace that is missing behind the first step is made up for by the last one. -/
def swallowing : String :=
  "scenario \"S\" \x7b\n  step \"a\" \x7b\n    click #1\n  step \"b\" \x7b\n  \x7d\n\x7d\n"

theorem step_swallowed :
    (read {} swallowing).success = true ∧ (read {} swallowing).cautions = [] ∧
      (read {} swallowing).scenario.map (·.steps.length) = some 1 ∧
      stepWords (Token.ofText swallowing) = 2 := by
  rw [read_eq]
  decide +kernel

end Script

end ScenarioScript
