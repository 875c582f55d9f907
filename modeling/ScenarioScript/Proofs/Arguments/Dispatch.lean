import ScenarioScript.Proofs.Arguments.Named
import ScenarioScript.Proofs.Script.Writer

namespace ScenarioScript

namespace Arguments

variable {settings : Settings} {args : List Token} {k : Keyword}

def HasTarget (args : List Token) : Prop :=
  ∃ u ∈ args.find? (·.kind = .targetId), u.text.length ≤ Decimal.maxDigits

def HasText (args : List Token) : Prop :=
  ∃ u ∈ args, u.kind = .string

def HasFilledText (args : List Token) : Prop :=
  ∃ u ∈ args.find? (·.kind = .string), u.text ≠ ""

def Suffice (args : List Token) : Keyword → Prop
  | .click | .hover | .assert | .select => HasTarget args
  | .type => HasTarget args ∧ HasText args
  | .uploadFile => HasTarget args ∧ HasFilledText args
  | .pressKey => HasFilledText args
  | .navigate => HasText args
  | _ => True

lemma exists_target?_iff (hargs : ∀ t ∈ args, t.Lexed) :
    (∃ n, target? args = some n) ↔ HasTarget args := by
  unfold target? firstText? HasTarget
  cases hu : args.find? (·.kind = .targetId) with
  | none => simp
  | some u =>
    have hkind : u.kind = .targetId := by simpa using List.find?_some hu
    simp [(hargs u (List.mem_of_find?_eq_some hu)).read? hkind]

lemma exists_firstText?_iff : (∃ s, firstText? .string args = some s) ↔ HasText args := by
  constructor
  · rintro ⟨s, hs⟩
    obtain ⟨u, hu, hkind, -⟩ := of_firstText? hs
    exact ⟨u, hu, hkind⟩
  · rintro ⟨u, hu, hkind⟩
    have hsome : (args.find? (·.kind = .string)).isSome = true :=
      List.find?_isSome.mpr ⟨u, hu, by simpa⟩
    obtain ⟨v, hv⟩ := Option.isSome_iff_exists.mp hsome
    exact ⟨v.text, by rw [firstText?, hv, Option.map_some]⟩

lemma exists_nonempty?_iff :
    (∃ s, (firstText? .string args).bind nonempty? = some s) ↔ HasFilledText args := by
  unfold firstText? HasFilledText
  cases args.find? (·.kind = .string) with
  | none => simp
  | some u => by_cases hu : u.text = "" <;> simp [nonempty?, hu]

end Arguments

namespace Action

open Arguments

variable {settings : Settings} {args : List Token} {k : Keyword}

lemma exists_ofArguments?_iff (settings : Settings) (hargs : ∀ t ∈ args, t.Lexed) :
    (∃ a, ofArguments? settings args k = some (some a)) ↔ k.isAction = true ∧ Suffice args k := by
  cases k with
  | click | hover | assert | select =>
    simp [ofArguments?, Suffice, Keyword.isAction, Option.bind_eq_some_iff,
      ← exists_target?_iff hargs]
  | type =>
    simp [ofArguments?, Suffice, Keyword.isAction, Option.bind_eq_some_iff,
      ← exists_target?_iff hargs, ← exists_firstText?_iff]
  | uploadFile =>
    simp [ofArguments?, Suffice, Keyword.isAction, Option.bind_eq_some_iff,
      ← exists_target?_iff hargs, ← exists_nonempty?_iff]
  | pressKey =>
    simp [ofArguments?, Suffice, Keyword.isAction, Option.bind_eq_some_iff, ← exists_nonempty?_iff]
  | navigate =>
    simp [ofArguments?, Suffice, Keyword.isAction, Option.bind_eq_some_iff, ← exists_firstText?_iff]
  | scroll | wait | goBack | goForward | refresh | screenshot =>
    simp [ofArguments?, Suffice, Keyword.isAction]
  | _ => simp [ofArguments?, Keyword.isAction]

lemma Gathers.keyword {a : Action} (h : Gathers settings args k a) : a.keyword = k := by
  cases h <;> rfl

lemma isAction_of_ofArguments?_none (h : ofArguments? settings args k = none) :
    k.isAction = false := by
  cases k <;> first | rfl | simp [ofArguments?] at h

def lack (head : Token) : Caution.Cause :=
  if head.keyword.any Keyword.isAction then .incompleteAction head.text
  else .unknownAction head.text

lemma eq_lack_of_ofSpan {head : Token} {e : Caution} (h : ofSpan settings head args = .error e) :
    e = ⟨head.line, lack head⟩ := by
  unfold ofSpan at h
  unfold lack
  split at h
  · next hnone =>
    have hhead : head.keyword.any Keyword.isAction = false := by
      cases hk : head.keyword with
      | none => rfl
      | some k =>
        rw [hk, Option.bind_some] at hnone
        exact isAction_of_ofArguments?_none hnone
    simpa [hhead] using h.symm
  · next hsome =>
    obtain ⟨k, hk, ha⟩ := Option.bind_eq_some_iff.mp hsome
    simpa [hk, isAction_of_ofArguments? ha] using h.symm
  · simp at h

end Action

namespace Walk

open Arguments

variable {settings : Settings} {head : Token} {args : List Token}

/-- A span has an action if and only if its head is the keyword of one and what that needs is among
the arguments. The action is then the one that the head names, and nothing is noted; a span without
one is cautioned for once, in the line of its head, and nothing else happens. -/
theorem action_iff_sufficient (settings : Settings) (hspan : ∀ t ∈ head :: args, t.Lexed)
    (c : Cursor) :
    ∃ r d, (action settings (head :: args)).on c = (.ok r, d) ∧
      (r.isSome = true ↔ ∃ k, head.keyword = some k ∧ k.isAction = true ∧ Suffice args k) ∧
      (∀ a, r = some a → head.keyword = some a.keyword ∧ d = c) ∧
      (r = none → d = c.noting [⟨head.line, Action.lack head⟩]) := by
  have hargs : ∀ t ∈ args, t.Lexed := fun t ht => hspan t (List.mem_cons_of_mem head ht)
  rw [on_action]
  cases hs : Action.ofSpan settings head args with
  | ok a =>
    obtain ⟨k, hk, ha⟩ := Action.ofSpan_eq_ok_iff.mp hs
    have hneeds := (Action.exists_ofArguments?_iff settings hargs).mp ⟨a, ha⟩
    refine ⟨some a, c, rfl, iff_of_true rfl ⟨k, hk, hneeds⟩, fun b hb => ?_, by simp⟩
    obtain rfl := Option.some.inj hb
    exact ⟨by rw [hk, (Action.gathers_of_ofArguments? ha).keyword], rfl⟩
  | error e =>
    obtain rfl := Action.eq_lack_of_ofSpan hs
    refine ⟨none, _, rfl, iff_of_false (by simp) ?_, by simp, fun _ => rfl⟩
    rintro ⟨k, hk, hneeds⟩
    obtain ⟨a, ha⟩ := (Action.exists_ofArguments?_iff settings hargs).mpr hneeds
    simp [Action.ofSpan_eq_ok_iff.mpr ⟨k, hk, ha⟩] at hs

def pathless : List Token :=
  Token.ofLine 1 "uploadFile \"\" #7 \"a.txt\""

theorem action_iff_sufficient_pathless :
    (∀ t ∈ pathless, t.Lexed) ∧
    (action {} pathless).on (.ofTokens []) =
      (.ok none, (Cursor.ofTokens []).noting [⟨1, .incompleteAction "uploadFile"⟩]) := by
  have hlexed : ∀ t ∈ pathless, t.Lexed := fun t ht => ⟨_, _, ht⟩
  have htokens : pathless = [⟨.keyword, "uploadFile", 1, 0⟩, ⟨.string, "", 1, 11⟩,
      ⟨.targetId, "7", 1, 14⟩, ⟨.string, "a.txt", 1, 17⟩] := by
    decide +kernel
  have hword : Token.keyword ⟨.keyword, "uploadFile", 1, 0⟩ = some .uploadFile := by decide +kernel
  refine ⟨hlexed, ?_⟩
  rw [htokens] at hlexed ⊢
  obtain ⟨r, d, hrun, hiff, -, hnone⟩ := action_iff_sufficient {} hlexed (.ofTokens [])
  have hr : r = none := by
    simpa [hword, Suffice, HasFilledText, Keyword.isAction] using hiff
  rw [hrun, hnone hr, hr, Action.lack, hword]
  rfl

end Walk

end ScenarioScript
