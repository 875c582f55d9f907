import ScenarioScript.Proofs.Decimal
import ScenarioScript.Proofs.Entry.Values

/-! Options of an action by the positions of its arguments. What a position gives can be told from
the tokens there, and of all that is given the last counts. -/

namespace ScenarioScript

namespace Token

def id (t : Token) : ℕ :=
  Nat.ofDigitChars 10 t.text.toList 0

structure IsId (t : Token) : Prop where
  nonempty : t.text ≠ ""
  digits : ∀ c ∈ t.text.toList, c.isDigit = true
  short : t.text.length ≤ Decimal.maxDigits

lemma IsId.of_all {t : Token} (h : (t.text ≠ "" && t.text.toList.all Char.isDigit &&
    t.text.length ≤ Decimal.maxDigits) = true) : t.IsId := by
  simp only [Bool.and_eq_true, decide_eq_true_eq, List.all_eq_true] at h
  exact ⟨h.1.1, h.1.2, h.2⟩

lemma IsId.read? {t : Token} (h : t.IsId) : Decimal.read? t.text = some (t.id : ℤ) := by
  rw [Decimal.read?_of_isDigit h.digits h.nonempty, String.length_toList, if_pos h.short, id]

end Token

namespace Arguments

variable {α : Type} {at? : List Token → ℕ → Option α} {args rest : List Token} {t u : Token}
  {k : Keyword} {kind : TokenKind}

def given (at? : List Token → ℕ → Option α) (args : List Token) : List α :=
  (List.range args.length).filterMap (at? args)

lemma given_cons (at? : List Token → ℕ → Option α) (t : Token) (rest : List Token) :
    given at? (t :: rest) = (at? (t :: rest) 0).toList ++
      (List.range rest.length).filterMap fun i => at? (t :: rest) (i + 1) := by
  rw [given, List.length_cons, List.range_succ_eq_map, List.filterMap_cons, List.filterMap_map]
  cases at? (t :: rest) 0 <;> rfl

lemma getLast?_given_cons (h : ∀ i, at? (t :: rest) (i + 1) = at? rest i) :
    (given at? (t :: rest)).getLast? = (given at? rest).getLast?.or (at? (t :: rest) 0) := by
  have hrest : ((List.range rest.length).filterMap fun i => at? (t :: rest) (i + 1)) =
      given at? rest := List.filterMap_congr fun i _ => h i
  rw [given_cons, hrest, List.getLast?_append]
  cases at? (t :: rest) 0 <;> rfl

lemma keyword_of_ahead? (h : ahead? kind rest = some u) (hk : kind ≠ .keyword) :
    u.keyword = none := by
  obtain ⟨us, -, hu⟩ := of_ahead? h
  rw [Token.keyword, if_neg (by rwa [hu])]

def assertion? (k : Keyword) (rest : List Token) : Option Assertion :=
  match k with
  | .visible => some .visible
  | .hidden => some .hidden
  | .enabled => some .enabled
  | .disabled => some .disabled
  | .checked => some .checked
  | .unchecked => some .unchecked
  | .textEquals => (ahead? .string rest).map fun u => .textEquals u.text
  | .textContains => (ahead? .string rest).map fun u => .textContains u.text
  | .hasClass => (ahead? .string rest).map fun u => .hasClass u.text
  | .attributeEquals => do
    let name ← ahead? .string rest
    let value ← ahead? .string rest.tail
    return .attributeEquals name.text value.text
  | _ => none

def assertionAt? (args : List Token) (i : ℕ) : Option Assertion :=
  (args[i]?.bind Token.keyword).bind fun k => assertion? k (args.drop (i + 1))

lemma assertion?_flag {a : Assertion} (h : flag? k = some a) (rest : List Token) :
    assertion? k rest = some a := by
  cases k <;> simp_all [flag?, assertion?]

lemma assertion?_text {a : String → Assertion} (h : textAssertion? k = some a) (rest : List Token) :
    assertion? k rest = (ahead? .string rest).map fun u => a u.text := by
  cases k <;> simp_all [textAssertion?, assertion?]

lemma assertion?_other (hf : flag? k = none) (ht : textAssertion? k = none)
    (hk : k ≠ .attributeEquals) (rest : List Token) : assertion? k rest = none := by
  cases k <;> simp_all [flag?, textAssertion?, assertion?]

lemma last_assertion_cons (t : Token) (rest : List Token) (found : Assertion) :
    (given assertionAt? (t :: rest)).getLast?.getD found =
      (given assertionAt? rest).getLast?.getD
        ((t.keyword.bind fun k => assertion? k rest).getD found) := by
  rw [getLast?_given_cons fun _ => rfl, Option.getD_or]
  rfl

lemma readAssertion_eq (found : Assertion) (args : List Token) :
    readAssertion found args = (given assertionAt? args).getLast?.getD found := by
  fun_induction readAssertion found args with
  | case1 found => rfl
  | case2 found t rest hw ih => simp [last_assertion_cons, hw, ih]
  | case3 found t rest k hw a ha ih => simp [last_assertion_cons, hw, assertion?_flag ha, ih]
  | case4 found t rest k hw a ha hf text ht ih =>
    obtain ⟨u, us, rfl, hu, rfl⟩ := ahead?_of_front? ht
    have hnone := keyword_of_ahead? hu (by simp)
    rw [List.tail_cons] at ih ⊢
    simp [last_assertion_cons, hw, assertion?_text ha, hu, hnone, ih]
  | case5 found t rest k hw a ha hf ht ih =>
    simp [last_assertion_cons, hw, assertion?_text ha, ahead?_of_front?_none ht, ih]
  | case6 found t rest name value hv hn hw ha hf ih =>
    obtain ⟨u, us, rfl, hu, rfl⟩ := ahead?_of_front? hn
    obtain ⟨v, vs, rfl : us = v :: vs, hav, rfl⟩ := ahead?_of_front? hv
    have hnone := keyword_of_ahead? hu (by simp)
    have hnone' := keyword_of_ahead? hav (by simp)
    rw [List.tail_cons, List.tail_cons] at ih ⊢
    rw [List.tail_cons] at hav
    simp [last_assertion_cons, hw, assertion?, hu, hav, hnone, hnone', ih]
  | case7 found t rest hne hw ha hf ih =>
    have hnone : assertion? .attributeEquals rest = none := by
      simp only [assertion?]
      cases hn : ahead? .string rest with
      | none => rfl
      | some u =>
        cases hv : ahead? .string rest.tail with
        | none => rfl
        | some v =>
          exact (hne u.text v.text (by rw [front?_eq, hn]; rfl) (by rw [front?_eq, hv]; rfl)).elim
    simp [last_assertion_cons, hw, hnone, ih]
  | case8 found t rest k hw ha hf hne ih =>
    simp [last_assertion_cons, hw, assertion?_other hf ha hne, ih]

lemma last_values_cons (k : Keyword) (kind : TokenKind) (t : Token) (rest : List Token) :
    (Runs.values k kind (t :: rest)).getLast? = (Runs.values k kind rest).getLast?.or
      (if t.is k then ahead? kind rest else none) := by
  have hlocal : ∀ i, Runs.valueAt? k kind (t :: rest) (i + 1) = Runs.valueAt? k kind rest i :=
    fun _ => rfl
  exact getLast?_given_cons hlocal

lemma readChoice_eq (c : Choice) (args : List Token) : readChoice c args =
    ⟨((Runs.values .value .string args).getLast?.map (·.text)).or c.value,
      ((Runs.values .label .string args).getLast?.map (·.text)).or c.label,
      ((Runs.values .index .number args).getLast?.map fun v =>
        Decimal.read? v.text).getD c.index⟩ := by
  fun_induction readChoice c args with
  | case1 c => simp [Runs.values]
  | case2 c t rest hw text ht ih | case4 c t rest hw text ht ih | case6 c t rest hw text ht ih =>
    obtain ⟨u, us, rfl, hu, rfl⟩ := ahead?_of_front? ht
    have hnone := keyword_of_ahead? hu (by simp)
    rw [List.tail_cons] at ih ⊢
    simp [last_values_cons, Token.is, hw, hu, hnone, ih]
  | case3 c t rest hw ht ih | case5 c t rest hw ht ih | case7 c t rest hw ht ih =>
    simp [last_values_cons, Token.is, hw, ahead?_of_front?_none ht, ih]
  | case8 c t rest hv hl hi ih =>
    simp [last_values_cons, Token.is, show t.keyword ≠ some .value from hv,
      show t.keyword ≠ some .label from hl, show t.keyword ≠ some .index from hi, ih]

end Arguments

namespace Walk

open Arguments

variable {args : List Token} {u : Token}

lemma target?_of_first (hfirst : args.find? (·.kind = .targetId) = some u) (hid : u.IsId) :
    target? args = some (u.id : ℤ) := by
  rw [target?, firstText?, hfirst, Option.map_some, Option.bind_some, hid.read?]

/-- Of an assertion and of a choice the last complete option counts, and those that lack something
do not count at all. -/
theorem last_complete_option_counts (hfirst : args.find? (·.kind = .targetId) = some u)
    (hid : u.IsId) (c : Cursor) :
    (assert args).on c =
      (.ok (some (.assert u.id ((given assertionAt? args).getLast?.getD .visible))), c) ∧
    (select args).on c =
      (.ok (some (.select u.id
        ((Runs.values .value .string args).getLast?.map (·.text))
        ((Runs.values .label .string args).getLast?.map (·.text))
        ((Runs.values .index .number args).getLast?.bind fun v => Decimal.read? v.text))), c) := by
  constructor
  · rw [assert_eq, target?_of_first hfirst hid, readAssertion_eq]
    rfl
  · rw [select_eq, target?_of_first hfirst hid, readChoice_eq]
    cases (Runs.values .index .number args).getLast? <;> simp [on_pure]

def interleaved : List Token :=
  [⟨.targetId, "12", 1, 7⟩, ⟨.keyword, "attributeEquals", 1, 11⟩, ⟨.string, "k", 1, 27⟩,
    ⟨.string, "v", 1, 31⟩, ⟨.keyword, "attributeEquals", 1, 35⟩, ⟨.string, "x", 1, 51⟩,
    ⟨.keyword, "value", 1, 55⟩, ⟨.string, "b", 1, 61⟩, ⟨.keyword, "index", 1, 65⟩,
    ⟨.number, "1", 1, 71⟩, ⟨.keyword, "index", 1, 73⟩, ⟨.number, "2.5", 1, 79⟩]

theorem last_complete_option_counts_interleaved :
    interleaved.find? (·.kind = .targetId) = some ⟨.targetId, "12", 1, 7⟩ ∧
    Token.IsId ⟨.targetId, "12", 1, 7⟩ ∧
    (assert interleaved).on (.ofTokens []) =
      (.ok (some (.assert 12 (.attributeEquals "k" "v"))), .ofTokens []) ∧
    (select interleaved).on (.ofTokens []) =
      (.ok (some (.select 12 (some "b") none none)), .ofTokens []) := by
  have hfirst : interleaved.find? (·.kind = .targetId) = some ⟨.targetId, "12", 1, 7⟩ := rfl
  have hid : Token.IsId ⟨.targetId, "12", 1, 7⟩ := .of_all (by decide +kernel)
  obtain ⟨hoption, hvalue, hlabel, hindex⟩ :
      (given assertionAt? interleaved).getLast? = some (.attributeEquals "k" "v") ∧
      (Runs.values .value .string interleaved).getLast?.map (·.text) = some "b" ∧
      (Runs.values .label .string interleaved).getLast?.map (·.text) = none ∧
      ((Runs.values .index .number interleaved).getLast?.bind fun v => Decimal.read? v.text) =
        none := by
    decide +kernel
  obtain ⟨hassert, hselect⟩ := last_complete_option_counts hfirst hid (.ofTokens [])
  rw [hoption] at hassert
  rw [hvalue, hlabel, hindex] at hselect
  exact ⟨hfirst, hid, hassert, hselect⟩

end Walk

end ScenarioScript
