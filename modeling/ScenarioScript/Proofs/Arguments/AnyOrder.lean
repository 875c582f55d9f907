import ScenarioScript.Proofs.Walk.Action

/-! Arguments in any order. Where no argument needs another one beside it, and none is there twice
that counts only once, it does not matter how they are ordered. -/

namespace ScenarioScript

lemma eq_of_perm_of_length_le_one {α : Type} {l l' : List α} (h : l.Perm l')
    (hone : l.length ≤ 1) : l = l' := by
  match l, hone with
  | [], _ => exact h.nil_eq
  | [a], _ => exact h.singleton_eq

lemma filter_eq_of_perm {α : Type} {l l' : List α} {P : α → Bool} (h : l.Perm l')
    (hone : (l.filter P).length ≤ 1) : l.filter P = l'.filter P :=
  eq_of_perm_of_length_le_one (h.filter P) hone

namespace Keyword

def isSide : Keyword → Bool
  | left | right | middle | up | down => true
  | _ => false

def takesAnyOrder : Keyword → Bool
  | click | type | hover | scroll | pressKey | navigate | uploadFile | screenshot => true
  | _ => false

end Keyword

lemma Modifiers.insert_comm (k k' : KeyModifier) (m : Modifiers) :
    insert k (insert k' m) = insert k' (insert k m) := by
  cases k <;> cases k' <;> rfl

namespace Arguments

variable {settings : Settings} {args args' : List Token} {kind : TokenKind}

/-- Flags may be repeated, but of anything else there is one at most. -/
structure Single (args : List Token) : Prop where
  target : args.countP (·.kind = .targetId) ≤ 1
  text : args.countP (·.kind = .string) ≤ 1
  number : args.countP (·.kind = .number) ≤ 1
  side : args.countP (·.keyword.any Keyword.isSide) ≤ 1

lemma foldl_readScroll (settings : Settings) (d : ScrollDraft) (args : List Token) :
    args.foldl (readScroll settings) d =
      ⟨(args.filterMap (·.keyword.bind direction?)).getLast?.getD d.direction,
        ((args.filter (·.kind = .number)).getLast?.map fun t =>
          integerOr settings.scrollAmount t.text).getD d.amount,
        ((args.filter (·.kind = .targetId)).getLast?.map fun t =>
          Decimal.read? t.text).getD d.target⟩ := by
  induction args generalizing d with
  | nil => rfl
  | cons t args ih =>
    rw [List.foldl_cons, ih]
    by_cases hword : t.kind = .keyword
    · cases hd : t.keyword.bind direction? <;>
        simp [readScroll, hword, hd, List.getLast?_cons]
    · have hnone : t.keyword = none := by simp [Token.keyword, hword]
      cases hkind : t.kind <;> simp [readScroll, hkind, hnone, List.getLast?_cons]

lemma filterMap_eq_of_perm {α : Type} {read : Keyword → Option α} (h : args.Perm args')
    (hone : args.countP (·.keyword.any Keyword.isSide) ≤ 1)
    (hside : ∀ k, (read k).isSome = true → k.isSide = true) :
    args.filterMap (·.keyword.bind read) = args'.filterMap (·.keyword.bind read) := by
  apply eq_of_perm_of_length_le_one (h.filterMap _)
  rw [List.length_filterMap_eq_countP]
  refine Nat.le_trans (List.countP_mono_left fun t _ ht => ?_) hone
  cases hk : t.keyword with
  | none => simp [hk] at ht
  | some k => exact hside k (by simpa [hk] using ht)

section

variable (h : args.Perm args')

include h

lemma filter_eq_of_perm_of_countP {P : Token → Bool} (hone : args.countP P ≤ 1) :
    args.filter P = args'.filter P :=
  filter_eq_of_perm h (by rwa [← List.countP_eq_length_filter])

lemma firstText?_perm (hone : args.countP (·.kind = kind) ≤ 1) :
    firstText? kind args = firstText? kind args' := by
  rw [firstText?, firstText?, ← List.head?_filter, ← List.head?_filter,
    filter_eq_of_perm_of_countP h hone]

lemma target?_perm (hone : Single args) : target? args = target? args' := by
  rw [target?, target?, firstText?_perm h hone.target]

lemma has_perm (k : Keyword) : has k args = has k args' :=
  h.any_eq

lemma lastButton_perm (hone : Single args) : lastButton args = lastButton args' := by
  have hside : ∀ k, (button? k).isSome = true → k.isSide = true := by
    intro k hk
    cases k <;> first | rfl | simp [button?] at hk
  rw [lastButton, lastButton, filterMap_eq_of_perm h hone.side hside]

lemma modifiers_perm : modifiers args = modifiers args' :=
  (h.filterMap _).foldr_eq' (fun k _ k' _ m => Modifiers.insert_comm k' k m) .empty

lemma foldl_readScroll_perm (d : ScrollDraft) (hone : Single args) :
    args.foldl (readScroll settings) d = args'.foldl (readScroll settings) d := by
  have hside : ∀ k, (direction? k).isSome = true → k.isSide = true := by
    intro k hk
    cases k <;> first | rfl | simp [direction?] at hk
  rw [foldl_readScroll, foldl_readScroll, filterMap_eq_of_perm h hone.side hside,
    filter_eq_of_perm_of_countP h hone.number, filter_eq_of_perm_of_countP h hone.target]

end

end Arguments

namespace Action

open Arguments

variable {settings : Settings} {args args' : List Token} {k : Keyword}

lemma ofArguments?_perm (hk : k.takesAnyOrder = true) (h : args.Perm args') (hone : Single args) :
    ofArguments? settings args k = ofArguments? settings args' k := by
  have htarget := target?_perm h hone
  have htext := firstText?_perm h hone.text
  have hhas := has_perm h
  cases k with
  | click => simp only [ofArguments?, htarget, lastButton_perm h hone, hhas]
  | type => simp only [ofArguments?, htarget, htext, hhas]
  | hover => simp only [ofArguments?, htarget]
  | scroll => simp only [ofArguments?, foldl_readScroll_perm h _ hone]
  | pressKey => simp only [ofArguments?, htext, modifiers_perm h]
  | navigate => simp only [ofArguments?, htext]
  | uploadFile => simp only [ofArguments?, htarget, htext]
  | screenshot => simp only [ofArguments?, htext, hhas]
  | _ => simp [Keyword.takesAnyOrder] at hk

lemma exists_ofArguments?_of_takesAnyOrder (settings : Settings) (args : List Token)
    (hk : k.takesAnyOrder = true) : ∃ r, ofArguments? settings args k = some r := by
  cases k with
  | click | type | hover | scroll | pressKey | navigate | uploadFile | screenshot => exact ⟨_, rfl⟩
  | _ => simp [Keyword.takesAnyOrder] at hk

end Action

namespace Walk

open Arguments

variable {head : Token} {args args' : List Token} {k : Keyword}

/-- The arguments of an action that finds them wherever they are may be ordered in any way, if
there is one of each at most: the same action comes of them, or none and the same caution. -/
theorem order_of_arguments_immaterial (settings : Settings) (hk : head.keyword = some k)
    (hfree : k.takesAnyOrder = true) (h : args.Perm args') (hone : Single args) (c : Cursor) :
    (∃ a, (action settings (head :: args)).on c = (.ok (some a), c) ∧
      (action settings (head :: args')).on c = (.ok (some a), c)) ∨
    (action settings (head :: args)).on c =
        (.ok none, c.noting [⟨head.line, .incompleteAction head.text⟩]) ∧
      (action settings (head :: args')).on c =
        (.ok none, c.noting [⟨head.line, .incompleteAction head.text⟩]) := by
  obtain ⟨r, hr⟩ := Action.exists_ofArguments?_of_takesAnyOrder settings args hfree
  have hr' := Action.ofArguments?_perm hfree h hone ▸ hr
  rw [on_action, on_action, Action.ofSpan, Action.ofSpan, hk, Option.bind_some, Option.bind_some,
    hr, hr']
  cases r with
  | none => exact .inr ⟨rfl, rfl⟩
  | some a => exact .inl ⟨a, rfl, rfl⟩

def typing : Token :=
  ⟨.keyword, "type", 1, 0⟩

def scattered : List Token :=
  [⟨.keyword, "pressEnter", 1, 5⟩, ⟨.targetId, "3", 1, 16⟩, ⟨.keyword, "pressEnter", 1, 19⟩,
    ⟨.string, "a", 1, 30⟩]

theorem order_of_arguments_immaterial_scattered :
    typing.keyword = some .type ∧ Single scattered ∧
    (action {} (typing :: scattered.reverse)).on (.ofTokens []) =
      (.ok (some (.type 3 "a" false true)), .ofTokens []) := by
  have hk : typing.keyword = some .type := by decide +kernel
  have hone : Single scattered :=
    ⟨by decide +kernel, by decide +kernel, by decide +kernel, by decide +kernel⟩
  have hread : Action.ofArguments? {} scattered .type = some (some (.type 3 "a" false true)) := by
    decide +kernel
  have hrun : (action {} (typing :: scattered)).on (.ofTokens []) =
      (.ok (some (.type 3 "a" false true)), .ofTokens []) := by
    rw [on_action, Action.ofSpan, hk, Option.bind_some, hread]
  refine ⟨hk, hone, ?_⟩
  rcases order_of_arguments_immaterial {} hk rfl (List.reverse_perm scattered).symm hone
    (.ofTokens []) with ⟨a, ha, hreversed⟩ | ⟨hnone, -⟩
  · rw [hreversed, ← ha, hrun]
  · simp [hrun] at hnone

end Walk

end ScenarioScript
