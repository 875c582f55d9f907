import Mathlib.Data.List.Forall2
import ScenarioScript.Proofs.Arguments.Wait
import ScenarioScript.Proofs.Draft
import ScenarioScript.Proofs.Entry
import ScenarioScript.Proofs.Walk.Script

/-! Settings only stand in for what a script leaves out. Two readings of one script under different
settings agree in everything else, so the settings decide neither which steps there are nor what is
told of them. -/

namespace ScenarioScript

def Defaulted {α : Type} (default₁ default₂ v₁ v₂ : α) : Prop :=
  v₁ ≠ v₂ → v₁ = default₁ ∧ v₂ = default₂

lemma Defaulted.of_eq {α : Type} {default₁ default₂ v₁ v₂ : α} (h : v₁ = v₂) :
    Defaulted default₁ default₂ v₁ v₂ :=
  fun hne => absurd h hne

lemma Defaulted.of_default {α : Type} (default₁ default₂ : α) :
    Defaulted default₁ default₂ default₁ default₂ :=
  fun _ => ⟨rfl, rfl⟩

lemma isSome_eq_of_rel {α β : Type} {R : α → β → Prop} {a : Option α} {b : Option β}
    (h : Option.Rel R a b) : a.isSome = b.isSome := by
  cases h <;> rfl

namespace WaitCondition

def lasting : WaitCondition → ℤ → WaitCondition
  | pageLoaded _, timeout => pageLoaded timeout
  | networkIdle _, timeout => networkIdle timeout
  | c, _ => c

end WaitCondition

variable {s₁ s₂ : Settings}

namespace Action

/-- Actions that are the same but for the defaults that each takes from settings of its own. -/
inductive Alike (s₁ s₂ : Settings) : Action → Action → Prop
  | scroll {n₁ n₂ : ℤ} (direction : ScrollDirection) (target : Option ℤ)
      (h : Defaulted s₁.scrollAmount s₂.scrollAmount n₁ n₂) :
      Alike s₁ s₂ (.scroll direction n₁ target) (.scroll direction n₂ target)
  | wait {n₁ n₂ : ℤ} (condition : WaitCondition)
      (h : Defaulted s₁.waitTimeout s₂.waitTimeout n₁ n₂) :
      Alike s₁ s₂ (.wait (condition.lasting n₁) n₁) (.wait (condition.lasting n₂) n₂)
  | screenshot {name₁ name₂ : String} (fullPage : Bool)
      (h : Defaulted s₁.screenshotName s₂.screenshotName name₁ name₂) :
      Alike s₁ s₂ (.screenshot name₁ fullPage) (.screenshot name₂ fullPage)
  | same (a : Action) : Alike s₁ s₂ a a

end Action

structure Step.Alike (s₁ s₂ : Settings) (a b : Step) : Prop where
  id : a.id = b.id
  description : a.description = b.description
  action : a.action.Alike s₁ s₂ b.action
  expected : a.expected = b.expected
  timeout : a.timeout = b.timeout
  retries : a.retries = b.retries
  continueOnFailure : a.continueOnFailure = b.continueOnFailure

structure Scenario.Alike (s₁ s₂ : Settings) (a b : Scenario) : Prop where
  id : a.id = b.id
  name : a.name = b.name
  description : a.description = b.description
  startUrl : a.startUrl = b.startUrl
  steps : List.Forall₂ (Step.Alike s₁ s₂) a.steps b.steps
  tags : a.tags = b.tags
  priority : a.priority = b.priority

namespace Arguments

lemma defaulted_integerOr (default₁ default₂ : ℤ) (text : String) :
    Defaulted default₁ default₂ (integerOr default₁ text) (integerOr default₂ text) := by
  rw [integerOr, integerOr]
  cases Decimal.read? text with
  | none => exact .of_default default₁ default₂
  | some n => exact .of_eq rfl

lemma defaulted_timeoutOf (args : List Token) :
    Defaulted s₁.waitTimeout s₂.waitTimeout (timeoutOf s₁ args) (timeoutOf s₂ args) := by
  rw [timeoutOf, timeoutOf]
  cases (Runs.values .timeout .number args).getLast?.bind fun v => Decimal.read? v.text with
  | none => exact .of_default _ _
  | some n => exact .of_eq rfl

lemma asked?_lasting (target : Token → ℤ) (timeout : ℤ) (k : Keyword) (rest : List Token) :
    asked? target timeout k rest = (asked? target 0 k rest).map (·.lasting timeout) := by
  cases k with
  | visible | hidden | enabled | textPresent | urlContains =>
    simp only [asked?, Option.map_map]
    rfl
  | _ => rfl

lemma conditionAt?_lasting (target : Token → ℤ) (timeout : ℤ) (args : List Token) (i : ℕ) :
    conditionAt? target timeout args i =
      (conditionAt? target 0 args i).map (·.lasting timeout) := by
  unfold conditionAt?
  cases args[i]? with
  | none => rfl
  | some t =>
    simp only [Option.bind_some]
    split
    · split <;> rfl
    · cases t.keyword with
      | none => rfl
      | some k => exact asked?_lasting target timeout k _

lemma last_condition_lasting (args : List Token) : ∃ c : WaitCondition, ∀ timeout,
    (given (conditionAt? awaited timeout) args).getLast?.getD (.duration defaultDuration) =
      c.lasting timeout := by
  refine ⟨(given (conditionAt? awaited 0) args).getLast?.getD (.duration defaultDuration),
    fun timeout => ?_⟩
  have hgiven : given (conditionAt? awaited timeout) args =
      (given (conditionAt? awaited 0) args).map (·.lasting timeout) := by
    rw [given, given, List.map_filterMap]
    exact List.filterMap_congr fun i _ => conditionAt?_lasting awaited timeout args i
  rw [hgiven, List.getLast?_map]
  cases (given (conditionAt? awaited 0) args).getLast? <;> rfl

structure ScrollDraft.Alike (s₁ s₂ : Settings) (d e : ScrollDraft) : Prop where
  direction : d.direction = e.direction
  amount : Defaulted s₁.scrollAmount s₂.scrollAmount d.amount e.amount
  target : d.target = e.target

lemma readScroll_alike {d e : ScrollDraft} (h : d.Alike s₁ s₂ e) (t : Token) :
    (readScroll s₁ d t).Alike s₁ s₂ (readScroll s₂ e t) := by
  rw [readScroll, readScroll]
  split
  · exact ⟨h.direction, h.amount, rfl⟩
  · exact ⟨h.direction, defaulted_integerOr _ _ t.text, h.target⟩
  · cases t.keyword.bind direction? with
    | none => exact h
    | some direction => exact ⟨rfl, h.amount, h.target⟩

lemma foldl_readScroll_alike {d e : ScrollDraft} (h : d.Alike s₁ s₂ e) (args : List Token) :
    (args.foldl (readScroll s₁) d).Alike s₁ s₂ (args.foldl (readScroll s₂) e) := by
  induction args generalizing d e with
  | nil => exact h
  | cons t args ih => exact ih (readScroll_alike h t)

end Arguments

namespace Action

open Arguments

lemma rel_same (a : Option Action) : Option.Rel (Alike s₁ s₂) a a := by
  cases a with
  | none => exact .none
  | some a => exact .some (.same a)

lemma ofArguments?_alike (s₁ s₂ : Settings) (args : List Token) (k : Keyword) :
    Option.Rel (Option.Rel (Alike s₁ s₂)) (ofArguments? s₁ args k) (ofArguments? s₂ args k) := by
  cases k with
  | scroll =>
    have hstart : ScrollDraft.Alike s₁ s₂ ⟨.down, s₁.scrollAmount, none⟩
        ⟨.down, s₂.scrollAmount, none⟩ := ⟨rfl, .of_default _ _, rfl⟩
    have hd := foldl_readScroll_alike hstart args
    refine .some (.some ?_)
    rw [hd.direction, hd.target]
    exact .scroll _ _ hd.amount
  | wait =>
    obtain ⟨c, hc⟩ := last_condition_lasting args
    refine .some (.some ?_)
    rw [wait_readWait, wait_readWait, hc, hc]
    exact .wait c (defaulted_timeoutOf args)
  | screenshot =>
    refine .some (.some (.screenshot _ ?_))
    cases firstText? .string args with
    | none => exact .of_default _ _
    | some name => exact .of_eq rfl
  | click | type | hover | pressKey | navigate | goBack | goForward | refresh | assert | select
  | uploadFile => exact .some (rel_same _)
  | _ => exact .none

lemma ofSpan_alike (s₁ s₂ : Settings) (head : Token) (args : List Token) :
    (∃ c, ofSpan s₁ head args = .error c ∧ ofSpan s₂ head args = .error c) ∨
      ∃ a b, ofSpan s₁ head args = .ok a ∧ ofSpan s₂ head args = .ok b ∧ a.Alike s₁ s₂ b := by
  rw [ofSpan, ofSpan]
  cases head.keyword with
  | none => exact .inl ⟨_, rfl, rfl⟩
  | some k =>
    rw [Option.bind_some, Option.bind_some]
    have hrel := ofArguments?_alike s₁ s₂ args k
    generalize ofArguments? s₁ args k = a, ofArguments? s₂ args k = b at hrel
    cases hrel with
    | none => exact .inl ⟨_, rfl, rfl⟩
    | some hrel => cases hrel with
      | none => exact .inl ⟨_, rfl, rfl⟩
      | some h => exact .inr ⟨_, _, rfl, rfl, h⟩

end Action

namespace StepDraft

structure Alike (s₁ s₂ : Settings) (d e : StepDraft) : Prop where
  action : Option.Rel (Action.Alike s₁ s₂) d.action e.action
  expected : d.expected = e.expected
  timeout : d.timeout = e.timeout
  retries : d.retries = e.retries
  continueOnFailure : d.continueOnFailure = e.continueOnFailure

variable {description : String} {d e : StepDraft}

lemma add_alike (h : d.Alike s₁ s₂ e) (entry : Entry) :
    (add s₁ description d entry).1.Alike s₁ s₂ (add s₂ description e entry).1 ∧
      (add s₁ description d entry).2 = (add s₂ description e entry).2 := by
  cases entry with
  | expect text => exact ⟨{ h with expected := rfl }, rfl⟩
  | timeout ms => exact ⟨{ h with timeout := rfl }, rfl⟩
  | retry line count =>
    by_cases hn : count < 0
    · simp only [add, hn, if_true, and_true]
      exact { h with retries := rfl }
    · simp only [add, hn, if_false, and_true]
      exact { h with retries := rfl }
  | continueOnFailure => exact ⟨{ h with continueOnFailure := rfl }, rfl⟩
  | run head args =>
    have hsome : d.action.isSome = e.action.isSome := isSome_eq_of_rel h.action
    by_cases ha : d.action.isSome = true
    · simp only [add, ha, ← hsome, if_true, and_true]
      exact h
    · simp only [add, ha, ← hsome]
      rcases Action.ofSpan_alike s₁ s₂ head args with ⟨c, h₁, h₂⟩ | ⟨a, b, h₁, h₂, hab⟩
      · rw [h₁, h₂]
        exact ⟨h, rfl⟩
      · rw [h₁, h₂]
        exact ⟨{ h with action := .some hab }, rfl⟩

lemma addAll_alike (h : d.Alike s₁ s₂ e) (entries : List Entry) :
    (addAll s₁ description d entries).1.Alike s₁ s₂ (addAll s₂ description e entries).1 ∧
      (addAll s₁ description d entries).2 = (addAll s₂ description e entries).2 := by
  induction entries generalizing d e with
  | nil => exact ⟨h, rfl⟩
  | cons entry entries ih =>
    obtain ⟨hd, hc⟩ := @add_alike s₁ s₂ description d e h entry
    obtain ⟨hds, hcs⟩ := ih hd
    rw [addAll_cons, addAll_cons, hc, hcs]
    exact ⟨hds, rfl⟩

end StepDraft

namespace Block

lemma draft_alike (s₁ s₂ : Settings) (b : Block) :
    (b.draft s₁).1.Alike s₁ s₂ (b.draft s₂).1 ∧ (b.draft s₁).2 = (b.draft s₂).2 :=
  StepDraft.addAll_alike ⟨.none, rfl, rfl, rfl, rfl⟩ (Entry.all b.body)

lemma step?_alike (s₁ s₂ : Settings) (id : String) (b : Block) :
    Option.Rel (Step.Alike s₁ s₂) (b.step? s₁ id) (b.step? s₂ id) := by
  have hd := (b.draft_alike s₁ s₂).1
  rw [step?, step?, StepDraft.step?, StepDraft.step?]
  have haction := hd.action
  generalize (b.draft s₁).1.action = a₁, (b.draft s₂).1.action = a₂ at haction
  cases haction with
  | none => exact .none
  | some ha =>
    exact .some ⟨rfl, rfl, ha, hd.expected, hd.timeout, hd.retries, hd.continueOnFailure⟩

lemma cautions_alike (s₁ s₂ : Settings) (b : Block) : b.cautions s₁ = b.cautions s₂ := by
  rw [cautions, cautions, (b.draft_alike s₁ s₂).2]

end Block

namespace Script

namespace Draft

structure Alike (s₁ s₂ : Settings) (d e : Draft) : Prop where
  name : d.name = e.name
  description : d.description = e.description
  startUrl : d.startUrl = e.startUrl
  tags : d.tags = e.tags
  priority : d.priority = e.priority
  steps : List.Forall₂ (Step.Alike s₁ s₂) d.steps e.steps
  blocks : d.blocks = e.blocks
  faults : d.faults = e.faults
  cautions : d.cautions = e.cautions

variable {d e : Draft}

lemma addBlock_alike (h : d.Alike s₁ s₂ e) (b : Block) :
    (d.addBlock s₁ b).Alike s₁ s₂ (e.addBlock s₂ b) := by
  have hblocks : d.blocks + 1 = e.blocks + 1 := by rw [h.blocks]
  have hcautions : d.cautions ++ b.cautions s₁ = e.cautions ++ b.cautions s₂ := by
    rw [h.cautions, b.cautions_alike s₁ s₂]
  have hstep := b.step?_alike s₁ s₂ (stepId d.blocks)
  rw [addBlock, addBlock, ← h.blocks]
  generalize b.step? s₁ (stepId d.blocks) = a₁, b.step? s₂ (stepId d.blocks) = a₂ at hstep
  cases hstep with
  | none =>
    have hfaults : d.faults ++ [b.fault] = e.faults ++ [b.fault] := by rw [h.faults]
    exact { h with blocks := rfl, faults := hfaults, cautions := hcautions }
  | some hstep =>
    have hsteps := List.rel_append h.steps (.cons hstep .nil)
    exact { h with steps := hsteps, blocks := rfl, cautions := hcautions }

lemma add_alike (h : d.Alike s₁ s₂ e) (i : Item) : (d.add s₁ i).Alike s₁ s₂ (e.add s₂ i) := by
  cases i with
  | name head text =>
    by_cases hn : d.name.isEmpty = true
    · simp only [add, ← h.name, hn, if_true]
      exact { h with name := rfl }
    · have hcautions : (d.caution ⟨head.line, .furtherScenario text⟩).cautions =
          (e.caution ⟨head.line, .furtherScenario text⟩).cautions := by
        rw [caution, caution, h.cautions]
      simp only [add, ← h.name, hn]
      exact { h with cautions := hcautions }
  | description text => exact { h with description := rfl }
  | url text => exact { h with startUrl := rfl }
  | tags tags => exact { h with tags := rfl }
  | priority word =>
    cases hp : word.keyword.bind priority? with
    | some p =>
      simp only [add, hp]
      exact { h with priority := rfl }
    | none =>
      simp only [add, hp]
      exact { h with priority := rfl, cautions := by rw [caution, caution, h.cautions] }
  | step b => exact addBlock_alike h b

lemma addAll_alike (h : d.Alike s₁ s₂ e) (is : List Item) :
    (d.addAll s₁ is).Alike s₁ s₂ (e.addAll s₂ is) := by
  induction is generalizing d e with
  | nil => exact h
  | cons i is ih =>
    rw [addAll_cons, addAll_cons]
    exact ih (add_alike h i)

end Draft

/-- Under any two settings a script has the same faults and cautions, and scenarios that are the same
but for amounts, timeouts and names that the settings supply. -/
theorem settings_supply_defaults (s₁ s₂ : Settings) (text : String) :
    (read s₁ text).success = (read s₂ text).success ∧
    (read s₁ text).faults = (read s₂ text).faults ∧
    (read s₁ text).cautions = (read s₂ text).cautions ∧
    Option.Rel (Scenario.Alike s₁ s₂) (read s₁ text).scenario (read s₂ text).scenario := by
  have hempty : Draft.empty.Alike s₁ s₂ Draft.empty :=
    ⟨rfl, rfl, rfl, rfl, rfl, .nil, rfl, rfl, rfl⟩
  have h := Draft.addAll_alike hempty (outline (Token.ofText text))
  rw [read_eq, read_eq, ofTokens, ofTokens]
  set d := Draft.empty.addAll s₁ (outline (Token.ofText text))
  set e := Draft.empty.addAll s₂ (outline (Token.ofText text))
  have hfaults : d.reading.faults = e.reading.faults := by
    rw [Draft.faults_reading, Draft.faults_reading, h.name, h.faults]
  have hscenario : Option.Rel (Scenario.Alike s₁ s₂) d.reading.scenario e.reading.scenario := by
    rw [Draft.scenario_reading, Draft.scenario_reading, ← h.name]
    split
    · exact .none
    · exact .some ⟨rfl, rfl, h.description, h.startUrl, h.steps, h.tags, h.priority⟩
  have hsome := isSome_eq_of_rel hscenario
  refine ⟨?_, hfaults, ?_, hscenario⟩
  · rw [Reading.success, Reading.success, hsome, hfaults]
  · rw [Draft.cautions_reading, Draft.cautions_reading, h.cautions]

end Script

end ScenarioScript
