import ScenarioScript.Proofs.Arguments.Options

namespace ScenarioScript

namespace Arguments

variable {settings : Settings} {target : Token → ℤ} {timeout : ℤ} {args rest us : List Token}
  {t u : Token} {k : Keyword} {kind : TokenKind} {condition : String → WaitCondition}

def asked? (target : Token → ℤ) (timeout : ℤ) (k : Keyword) (rest : List Token) :
    Option WaitCondition :=
  match k with
  | .visible => (ahead? .targetId rest).map fun u => .elementVisible (target u)
  | .hidden => (ahead? .targetId rest).map fun u => .elementHidden (target u)
  | .enabled => (ahead? .targetId rest).map fun u => .elementEnabled (target u)
  | .textPresent => (ahead? .string rest).map fun u => .textPresent u.text
  | .urlContains => (ahead? .string rest).map fun u => .urlContains u.text
  | .pageLoaded => some (.pageLoaded timeout)
  | .networkIdle => some (.networkIdle timeout)
  | _ => none

def follows (k : Keyword) (args : List Token) : ℕ → Bool
  | 0 => false
  | i + 1 => (args[i]?).any (·.is k)

/-- The condition at a position of a wait that lasts no longer than `timeout`: a duration where a
number is no timeout, or what a word asks for. -/
def conditionAt? (target : Token → ℤ) (timeout : ℤ) (args : List Token) (i : ℕ) :
    Option WaitCondition :=
  args[i]?.bind fun t =>
    if t.kind = .number then
      if follows .timeout args i then none else some (.duration (integerOr defaultDuration t.text))
    else t.keyword.bind fun k => asked? target timeout k (args.drop (i + 1))

def timeoutOf (settings : Settings) (args : List Token) : ℤ :=
  ((Runs.values .timeout .number args).getLast?.bind fun v => Decimal.read? v.text).getD
    settings.waitTimeout

lemma conditionAt?_zero (t : Token) (rest : List Token) :
    conditionAt? target timeout (t :: rest) 0 =
      if t.kind = .number then some (.duration (integerOr defaultDuration t.text))
      else t.keyword.bind fun k => asked? target timeout k rest :=
  rfl

lemma conditionAt?_succ (h : t.is .timeout = false ∨ ahead? .number rest = none) (i : ℕ) :
    conditionAt? target timeout (t :: rest) (i + 1) = conditionAt? target timeout rest i := by
  -- Only the first position behind a token looks back at it.
  cases i with
  | succ i => rfl
  | zero =>
    cases rest with
    | nil => rfl
    | cons u us =>
      rcases h with h | h
      · simp [conditionAt?, follows, h]
      · have hu : u.kind ≠ .number := by simpa [ahead?] using h
        simp [conditionAt?, hu]

lemma last_condition_cons (h : t.is .timeout = false ∨ ahead? .number rest = none) :
    (given (conditionAt? target timeout) (t :: rest)).getLast? =
      (given (conditionAt? target timeout) rest).getLast?.or
        (conditionAt? target timeout (t :: rest) 0) :=
  getLast?_given_cons (conditionAt?_succ h)

lemma given_condition_timeout (ht : t.keyword = some .timeout) (hu : u.kind = .number) :
    given (conditionAt? target timeout) (t :: u :: us) =
      given (conditionAt? target timeout) us := by
  have hkind := Token.kind_of_keyword ht
  have hkeyword : u.is .timeout = false := Token.is_eq_false_of_kind_ne (by simp [hu]) _
  have hzero : conditionAt? target timeout (t :: u :: us) 0 = none := by
    simp [conditionAt?_zero, hkind, ht, asked?]
  have hone : conditionAt? target timeout (t :: u :: us) 1 = none := by
    simp [conditionAt?, hu, follows, Token.is, ht]
  have hnext (i : ℕ) : conditionAt? target timeout (t :: u :: us) (i + 1 + 1) =
      conditionAt? target timeout us i :=
    (conditionAt?_succ (t := u) (.inl hkeyword) i)
  rw [given_cons, hzero, List.length_cons, List.range_succ_eq_map, List.filterMap_cons, hone,
    List.filterMap_map]
  exact List.filterMap_congr fun i _ => hnext i

def awaited (u : Token) : ℤ :=
  integerOr defaultDuration u.text

lemma of_condition? (hc : condition? k = some (kind, condition)) :
    k ≠ .timeout ∧ kind ≠ .keyword := by
  cases k <;> simp [condition?] at hc <;> simp [← hc.1]

lemma asked?_complete (hc : condition? k = some (kind, condition)) (hu : u.kind = kind)
    (us : List Token) (timeout : ℤ) :
    (if kind = .number then some (.duration (integerOr defaultDuration u.text)) else none).or
      (asked? awaited timeout k (u :: us)) = some (condition u.text) := by
  cases k with
  | duration =>
    obtain ⟨rfl, rfl⟩ := Prod.mk.inj (Option.some.inj hc)
    simp
  | visible | hidden | enabled | textPresent | urlContains =>
    obtain ⟨rfl, rfl⟩ := Prod.mk.inj (Option.some.inj hc)
    simp [hu, asked?, ahead?, awaited]
  | _ => simp [condition?] at hc

lemma last_condition_word (hc : condition? k = some (kind, condition)) (ht : t.keyword = some k)
    (hu : u.kind = kind) :
    (given (conditionAt? awaited timeout) (t :: u :: us)).getLast? =
      (given (conditionAt? awaited timeout) us).getLast?.or (some (condition u.text)) := by
  -- The condition is given once: a duration by its number, any other by its word.
  obtain ⟨hne, hkind⟩ := of_condition? hc
  have hword := Token.kind_of_keyword ht
  have hkeyword : u.keyword = none := by simp [Token.keyword, hu, hkind]
  have htimeout : t.is .timeout = false := by simp [Token.is, ht, hne]
  have htimeout' : u.is .timeout = false := by simp [Token.is, hkeyword]
  rw [last_condition_cons (.inl htimeout), last_condition_cons (.inl htimeout'), Option.or_assoc,
    conditionAt?_zero, conditionAt?_zero, ← asked?_complete hc hu us timeout]
  simp [hword, ht, hkeyword, hu]

lemma asked?_incomplete (hc : condition? k = some (kind, condition))
    (hr : ahead? kind rest = none) : asked? target timeout k rest = none := by
  cases k <;> simp_all [condition?, asked?]

lemma asked?_timed {condition : ℤ → WaitCondition} (hc : timedCondition? k = some condition)
    (rest : List Token) : asked? target timeout k rest = some (condition timeout) := by
  cases k <;> simp_all [timedCondition?, asked?]

lemma ne_timeout_of_timed {condition : ℤ → WaitCondition}
    (hc : timedCondition? k = some condition) : k ≠ .timeout := by
  rintro rfl
  simp [timedCondition?] at hc

lemma asked?_other (hc : condition? k = none) (ht : timedCondition? k = none) (rest : List Token) :
    asked? target timeout k rest = none := by
  cases k <;> simp_all [condition?, timedCondition?, asked?]

lemma condition_readWait (settings : Settings) (d : WaitDraft) (args : List Token) (timeout : ℤ) :
    (readWait settings d args).condition timeout =
      (given (conditionAt? awaited timeout) args).getLast?.getD (d.condition timeout) := by
  fun_induction readWait settings d args with
  | case1 d => rfl
  | case2 d t rest hk ms ih =>
    have htimeout := Token.is_eq_false_of_kind_ne (t := t) (by simp [hk]) .timeout
    simp [last_condition_cons (.inl htimeout), conditionAt?_zero, hk, ih, ms]
  | case3 d t rest hk hw ih =>
    have htimeout : t.is .timeout = false := by simp [Token.is, hw]
    simp [last_condition_cons (.inl htimeout), conditionAt?_zero, hk, hw, ih]
  | case4 d t rest hk k hw kind condition hc text ht ih =>
    obtain ⟨u, us, rfl, hu, rfl⟩ := ahead?_of_front? ht
    obtain ⟨-, -, hkind⟩ := of_ahead? hu
    rw [List.tail_cons] at ih ⊢
    rw [last_condition_word hc hw hkind, ih]
    simp
  | case5 d t rest hk k hw kind condition hc ht ih =>
    have htimeout : t.is .timeout = false := by simp [Token.is, hw, (of_condition? hc).1]
    simp [last_condition_cons (.inl htimeout), conditionAt?_zero, hk, hw, ih,
      asked?_incomplete hc (ahead?_of_front?_none ht)]
  | case6 d t rest hk k hw condition hc hn ih =>
    have htimeout : t.is .timeout = false := by simp [Token.is, hw, ne_timeout_of_timed hc]
    simp [last_condition_cons (.inl htimeout), conditionAt?_zero, hk, hw, ih, asked?_timed hc]
  | case7 d t rest hk text ht hw hc hn ih =>
    obtain ⟨u, us, rfl, hu, rfl⟩ := ahead?_of_front? ht
    obtain ⟨-, -, hnumber⟩ := of_ahead? hu
    rw [List.tail_cons] at ih ⊢
    rw [given_condition_timeout hw hnumber, ih]
  | case8 d t rest hk ht hw hc hn ih =>
    have hnumber := ahead?_of_front?_none ht
    simp [last_condition_cons (.inr hnumber), conditionAt?_zero, hk, hw, asked?, ih]
  | case9 d t rest hk k hw hc hn hne ih =>
    have htimeout : t.is .timeout = false := by simp [Token.is, hw, hne]
    simp [last_condition_cons (.inl htimeout), conditionAt?_zero, hk, hw, ih, asked?_other hn hc]

lemma timeout_readWait (settings : Settings) (d : WaitDraft) (args : List Token) :
    (readWait settings d args).timeout =
      ((Runs.values .timeout .number args).getLast?.map fun v =>
        integerOr settings.waitTimeout v.text).getD d.timeout := by
  fun_induction readWait settings d args with
  | case1 d => rfl
  | case2 d t rest hk ms ih =>
    have htimeout := Token.is_eq_false_of_kind_ne (t := t) (by simp [hk]) .timeout
    simp [last_values_cons, htimeout, ih]
  | case3 d t rest hk hw ih => simp [last_values_cons, Token.is, hw, ih]
  | case4 d t rest hk k hw kind condition hc text ht ih =>
    obtain ⟨u, us, rfl, hu, rfl⟩ := ahead?_of_front? ht
    obtain ⟨hne, hkind⟩ := of_condition? hc
    have hnone := keyword_of_ahead? hu hkind
    rw [List.tail_cons] at ih ⊢
    simp [last_values_cons, Token.is, hw, hne, hnone, ih]
  | case5 d t rest hk k hw kind condition hc ht ih =>
    simp [last_values_cons, Token.is, hw, (of_condition? hc).1, ih]
  | case6 d t rest hk k hw condition hc hn ih =>
    simp [last_values_cons, Token.is, hw, ne_timeout_of_timed hc, ih]
  | case7 d t rest hk text ht hw hc hn ih =>
    obtain ⟨u, us, rfl, hu, rfl⟩ := ahead?_of_front? ht
    have hnone := keyword_of_ahead? hu (by simp)
    rw [List.tail_cons] at ih ⊢
    simp [last_values_cons, Token.is, hw, hu, hnone, ih]
  | case8 d t rest hk ht hw hc hn ih =>
    simp [last_values_cons, Token.is, hw, ahead?_of_front?_none ht, ih]
  | case9 d t rest hk k hw hc hn hne ih => simp [last_values_cons, Token.is, hw, hne, ih]

lemma wait_readWait (settings : Settings) (args : List Token) :
    (readWait settings ⟨fun _ => .duration defaultDuration, settings.waitTimeout⟩ args).wait =
      .wait ((given (conditionAt? awaited (timeoutOf settings args)) args).getLast?.getD
        (.duration defaultDuration)) (timeoutOf settings args) := by
  have htimeout : (readWait settings ⟨fun _ => .duration defaultDuration, settings.waitTimeout⟩
      args).timeout = timeoutOf settings args := by
    rw [timeout_readWait, timeoutOf]
    cases (Runs.values .timeout .number args).getLast? <;> rfl
  -- Conditions that carry the timeout are made with the last one, which may come behind them.
  rw [WaitDraft.wait, htimeout, condition_readWait]

lemma conditionAt?_congr {target' : Token → ℤ}
    (h : ∀ u ∈ args, u.kind = .targetId → target u = target' u) (timeout : ℤ) (i : ℕ) :
    conditionAt? target timeout args i = conditionAt? target' timeout args i := by
  have hahead (f : ℤ → WaitCondition) :
      ((ahead? .targetId (args.drop (i + 1))).map fun u => f (target u)) =
        (ahead? .targetId (args.drop (i + 1))).map fun u => f (target' u) := by
    cases hu : ahead? .targetId (args.drop (i + 1)) with
    | none => rfl
    | some u =>
      obtain ⟨us, hus, hkind⟩ := of_ahead? hu
      have hmem : u ∈ args := List.mem_of_mem_drop (i := i + 1) (by simp [hus])
      simp [h u hmem hkind]
  have hasked (k : Keyword) : asked? target timeout k (args.drop (i + 1)) =
      asked? target' timeout k (args.drop (i + 1)) := by
    cases k <;> first | rfl | exact hahead _
  simp only [conditionAt?, hasked]

end Arguments

namespace Walk

open Arguments

/-- A wait lasts as long as its last complete timeout says, wherever that stands, and waits for the
last condition that is complete. -/
theorem wait_by_position (settings : Settings) {args : List Token}
    (hids : ∀ t ∈ args, t.kind = .targetId → t.IsId) (c : Cursor) :
    (wait settings args).on c =
      (.ok (some (.wait
        ((given (conditionAt? (fun u => u.id) (timeoutOf settings args)) args).getLast?.getD
          (.duration defaultDuration))
        (timeoutOf settings args))), c) := by
  have hread : ∀ u ∈ args, u.kind = .targetId → awaited u = u.id := fun u hu hkind => by
    rw [awaited, integerOr, (hids u hu hkind).read?, Option.getD_some]
  have hgiven : given (conditionAt? awaited (timeoutOf settings args)) args =
      given (conditionAt? (fun u => u.id) (timeoutOf settings args)) args :=
    List.filterMap_congr fun i _ => conditionAt?_congr hread _ i
  rw [wait_eq, wait_readWait, hgiven, on_pure]

def postponed : List Token :=
  [⟨.keyword, "visible", 1, 5⟩, ⟨.targetId, "7", 1, 13⟩, ⟨.number, "250", 1, 16⟩,
    ⟨.keyword, "timeout", 1, 20⟩, ⟨.number, "1.5", 1, 28⟩, ⟨.keyword, "pageLoaded", 1, 32⟩,
    ⟨.keyword, "timeout", 1, 43⟩, ⟨.number, "900", 1, 51⟩, ⟨.keyword, "hidden", 1, 55⟩]

theorem wait_by_position_postponed :
    (∀ t ∈ postponed, t.kind = .targetId → t.IsId) ∧
    (wait {} postponed).on (.ofTokens []) =
      (.ok (some (.wait (.pageLoaded 900) 900)), .ofTokens []) := by
  have hids : ∀ t ∈ postponed, t.kind = .targetId → t.IsId := by
    simp only [postponed, List.forall_mem_cons, reduceCtorEq, false_implies, true_and]
    exact ⟨fun _ => .of_all (by decide +kernel), by simp⟩
  have htimeout : timeoutOf {} postponed = 900 := by decide +kernel
  have hcondition : (given (conditionAt? (fun u => u.id) 900) postponed).getLast? =
      some (.pageLoaded 900) := by
    decide +kernel
  have hwait := wait_by_position {} hids (.ofTokens [])
  rw [htimeout, hcondition] at hwait
  exact ⟨hids, hwait⟩

end Walk

end ScenarioScript
