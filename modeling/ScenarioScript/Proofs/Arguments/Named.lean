import ScenarioScript.Proofs.Arguments.Wait
import ScenarioScript.Proofs.Lexeme.Spelled
import ScenarioScript.Proofs.Lexeme.Tidy

namespace ScenarioScript

def Settings.numbers (s : Settings) : List ℤ :=
  [defaultDuration, s.waitTimeout, s.scrollAmount]

namespace Arguments

variable {settings : Settings} {args rest : List Token} {t u : Token} {timeout : ℤ} {i : ℕ}
  {s : String} {k : Keyword} {kind : TokenKind}

def Spells (settings : Settings) (args : List Token) (n : ℤ) : Prop :=
  (∃ u ∈ args, Decimal.read? u.text = some n) ∨ n ∈ settings.numbers

lemma spells_integerOr (hu : u ∈ args) {default : ℤ} (hd : default ∈ settings.numbers) :
    Spells settings args (integerOr default u.text) := by
  unfold integerOr
  cases hr : Decimal.read? u.text with
  | none => exact .inr hd
  | some n => exact .inl ⟨u, hu, hr⟩

lemma spells_timeoutOf (settings : Settings) (args : List Token) :
    Spells settings args (timeoutOf settings args) := by
  unfold timeoutOf
  cases hread : (Runs.values .timeout .number args).getLast?.bind fun v => Decimal.read? v.text with
  | none => exact .inr (by simp [Settings.numbers])
  | some n =>
    obtain ⟨u, hu, hr⟩ := Option.bind_eq_some_iff.mp hread
    exact .inl ⟨u, (Runs.of_mem_values (List.mem_of_getLast? hu)).1, hr⟩

structure ScrollDraft.Named (settings : Settings) (args : List Token) (d : ScrollDraft) : Prop where
  target : ∀ n ∈ d.target, ∃ u ∈ args, u.kind = .targetId ∧ Decimal.read? u.text = some n
  amount : Spells settings args d.amount

lemma named_readScroll {d : ScrollDraft} (hd : d.Named settings args) (hargs : rest ⊆ args) :
    (rest.foldl (readScroll settings) d).Named settings args := by
  induction rest generalizing d with
  | nil => exact hd
  | cons t rest ih =>
    obtain ⟨ht, hrest⟩ := List.cons_subset.mp hargs
    refine ih ?_ hrest
    unfold readScroll
    split
    · next hk => exact ⟨fun n hn => ⟨t, ht, hk, hn⟩, hd.amount⟩
    · exact ⟨hd.target, spells_integerOr ht (by simp [Settings.numbers])⟩
    · split
      · exact ⟨hd.target, hd.amount⟩
      · exact hd

lemma of_texts_assertionAt? {a : Assertion} (h : assertionAt? args i = some a) (hs : s ∈ a.texts) :
    ∃ u ∈ args, u.kind = .string ∧ u.text = s := by
  obtain ⟨k, -, hk⟩ := Option.bind_eq_some_iff.mp h
  cases k with
  | textEquals | textContains | hasClass =>
    obtain ⟨u, hu, rfl⟩ := Option.map_eq_some_iff.mp hk
    obtain ⟨hmem, hkind⟩ := mem_of_ahead? hu
    exact ⟨u, hmem, hkind, (List.mem_singleton.mp hs).symm⟩
  | attributeEquals =>
    obtain ⟨name, hname, value, hvalue, rfl⟩ := by
      simpa [assertion?, Option.bind_eq_some_iff] using hk
    obtain ⟨hmem, hkind⟩ := mem_of_ahead? hname
    obtain ⟨hmem', hkind'⟩ := mem_of_ahead? hvalue
    rcases List.mem_pair.mp hs with rfl | rfl
    · exact ⟨name, hmem, hkind, rfl⟩
    · exact ⟨value, hmem', hkind', rfl⟩
  | visible | hidden | enabled | disabled | checked | unchecked =>
    obtain rfl := Option.some.inj hk
    simp [Assertion.texts] at hs
  | _ => simp [assertion?] at hk

lemma infix_of_ahead? (ht : args[i]? = some t) (hu : ahead? kind (args.drop (i + 1)) = some u) :
    [t, u] <:+: args ∧ u.kind = kind := by
  obtain ⟨us, hus, hkind⟩ := of_ahead? hu
  have hdrop : args.drop i = [t, u] ++ us := by
    rw [Runs.drop_eq_cons ht, hus]
    rfl
  have hfront : [t, u] <:+: args.drop i := hdrop ▸ (List.prefix_append _ us).isInfix
  exact ⟨hfront.trans (List.drop_suffix i args).isInfix, hkind⟩

def Takes (args : List Token) (u : Token) : Prop :=
  u.kind = .targetId ∧
    ∃ t, [t, u] <:+: args ∧ (t.is .visible = true ∨ t.is .hidden = true ∨ t.is .enabled = true)

lemma Takes.mem (h : Takes args u) : u ∈ args := by
  obtain ⟨-, t, hpair, -⟩ := h
  exact hpair.subset (by simp)

lemma Takes.cons (h : Takes args u) (head : Token) : Takes (head :: args) u := by
  obtain ⟨hkind, t, hpair, ht⟩ := h
  exact ⟨hkind, t, List.infix_cons hpair, ht⟩

structure Awaits (settings : Settings) (args : List Token) (timeout : ℤ) (c : WaitCondition) :
    Prop where
  targets : ∀ n ∈ c.targets, ∃ u, Takes args u ∧ awaited u = n
  texts : ∀ s ∈ c.texts, ∃ u ∈ args, u.kind = .string ∧ u.text = s
  numbers : ∀ n ∈ c.numbers, Spells settings args n
  lasts : c.Lasts timeout

lemma awaits_duration {n : ℤ} (hn : Spells settings args n) :
    Awaits settings args timeout (.duration n) :=
  ⟨by simp [WaitCondition.targets], by simp [WaitCondition.texts],
    by simpa [WaitCondition.numbers], trivial⟩

lemma awaits_of_asked? {c : WaitCondition} (ht : args[i]? = some t) (hword : t.keyword = some k)
    (htimeout : Spells settings args timeout)
    (h : asked? awaited timeout k (args.drop (i + 1)) = some c) :
    Awaits settings args timeout c := by
  cases k with
  | visible | hidden | enabled =>
    obtain ⟨u, hu, rfl⟩ := Option.map_eq_some_iff.mp h
    obtain ⟨hpair, hkind⟩ := infix_of_ahead? ht hu
    have htakes : Takes args u := ⟨hkind, t, hpair, by simp [Token.is, hword]⟩
    have hspells : Spells settings args (awaited u) :=
      spells_integerOr htakes.mem (by simp [Settings.numbers])
    exact ⟨by simpa [WaitCondition.targets] using ⟨u, htakes, rfl⟩, by simp [WaitCondition.texts],
      by simpa [WaitCondition.numbers], trivial⟩
  | textPresent | urlContains =>
    obtain ⟨u, hu, rfl⟩ := Option.map_eq_some_iff.mp h
    obtain ⟨hmem, hkind⟩ := mem_of_ahead? hu
    exact ⟨by simp [WaitCondition.targets],
      by simpa [WaitCondition.texts] using ⟨u, hmem, hkind, rfl⟩, by simp [WaitCondition.numbers],
      trivial⟩
  | pageLoaded | networkIdle =>
    obtain rfl := Option.some.inj h
    exact ⟨by simp [WaitCondition.targets], by simp [WaitCondition.texts],
      by simpa [WaitCondition.numbers], rfl⟩
  | _ => simp [asked?] at h

lemma awaits_of_conditionAt? {c : WaitCondition} (htimeout : Spells settings args timeout)
    (h : conditionAt? awaited timeout args i = some c) : Awaits settings args timeout c := by
  obtain ⟨t, ht, h⟩ := Option.bind_eq_some_iff.mp h
  split at h
  · split at h
    · simp at h
    · obtain rfl := Option.some.inj h
      have hmem : t ∈ args := List.mem_of_getElem? ht
      exact awaits_duration (spells_integerOr hmem (by simp [Settings.numbers]))
  · obtain ⟨k, hword, hk⟩ := Option.bind_eq_some_iff.mp h
    exact awaits_of_asked? ht hword htimeout hk

lemma last_given {α : Type} {at? : List Token → ℕ → Option α} {d : α} {P : α → Prop} (hd : P d)
    (h : ∀ i a, at? args i = some a → P a) : P ((given at? args).getLast?.getD d) := by
  cases hlast : (given at? args).getLast? with
  | none => exact hd
  | some a =>
    obtain ⟨i, -, hi⟩ := List.mem_filterMap.mp (List.mem_of_getLast? hlast)
    exact h i a hi

lemma awaits_readWait (settings : Settings) (args : List Token) : ∃ c,
    (readWait settings ⟨fun _ => .duration defaultDuration, settings.waitTimeout⟩ args).wait =
      .wait c (timeoutOf settings args) ∧
    Awaits settings args (timeoutOf settings args) c := by
  refine ⟨_, wait_readWait settings args, last_given ?_ fun i c h => ?_⟩
  · exact awaits_duration (.inr (by simp [Settings.numbers]))
  · exact awaits_of_conditionAt? (spells_timeoutOf settings args) h

lemma of_readAssertion (hs : s ∈ (readAssertion .visible args).texts) :
    ∃ u ∈ args, u.kind = .string ∧ u.text = s := by
  rw [readAssertion_eq] at hs
  refine last_given (P := fun a : Assertion => s ∈ a.texts → _) ?_ ?_ hs
  · simp [Assertion.texts]
  · intro i a ha
    exact of_texts_assertionAt? ha

lemma of_readChoice (hs : s ∈ (readChoice ⟨none, none, none⟩ args).value ∨
    s ∈ (readChoice ⟨none, none, none⟩ args).label) :
    ∃ u ∈ args, u.kind = .string ∧ u.text = s := by
  have hlast (k : Keyword) (hs : s ∈ (Runs.values k .string args).getLast?.map (·.text)) :
      ∃ u ∈ args, u.kind = .string ∧ u.text = s := by
    obtain ⟨u, hu, rfl⟩ := Option.map_eq_some_iff.mp hs
    obtain ⟨hmem, hkind⟩ := Runs.of_mem_values (List.mem_of_getLast? hu)
    exact ⟨u, hmem, hkind, rfl⟩
  rw [readChoice_eq, Option.or_none, Option.or_none] at hs
  rcases hs with hvalue | hlabel
  · exact hlast .value hvalue
  · exact hlast .label hlabel

lemma of_index_readChoice {n : ℤ} (hn : n ∈ (readChoice ⟨none, none, none⟩ args).index) :
    ∃ u ∈ args, Decimal.read? u.text = some n := by
  rw [readChoice_eq] at hn
  cases hlast : (Runs.values .index .number args).getLast? with
  | none => simp [hlast] at hn
  | some u =>
    obtain ⟨hmem, -⟩ := Runs.of_mem_values (List.mem_of_getLast? hlast)
    exact ⟨u, hmem, by simpa [hlast] using hn⟩

end Arguments

namespace Action

open Arguments

variable {settings : Settings} {args : List Token} {a : Action}

/-- What an action names is in its arguments. A wait may name an element that it could not read. -/
structure Named (settings : Settings) (args : List Token) (a : Action) : Prop where
  targets : ∀ n ∈ a.targets, ∃ u ∈ args, u.kind = .targetId ∧ (Decimal.read? u.text = some n ∨
    Decimal.read? u.text = none ∧ n = defaultDuration ∧ Takes args u ∧
      ∃ condition timeout, a = .wait condition timeout)
  texts : ∀ s ∈ a.texts, (∃ u ∈ args, u.kind = .string ∧ u.text = s) ∨
    (∀ u ∈ args, u.kind ≠ .string) ∧ ∃ fullPage, a = .screenshot settings.screenshotName fullPage
  numbers : ∀ n ∈ a.numbers, Spells settings args n

lemma named_wait {c : WaitCondition} {timeout : ℤ} (hc : Awaits settings args timeout c)
    (htimeout : Spells settings args timeout) : (wait c timeout).Named settings args := by
  refine ⟨fun n hn => ?_, fun s hs => .inl (hc.texts s hs), fun n hn => ?_⟩
  · obtain ⟨u, htakes, rfl⟩ := hc.targets n hn
    refine ⟨u, htakes.mem, htakes.1, ?_⟩
    cases hr : Decimal.read? u.text with
    | none => exact .inr ⟨rfl, by simp [awaited, integerOr, hr], htakes, _, _, rfl⟩
    | some n => exact .inl (by simp [awaited, integerOr, hr])
  · rcases List.mem_cons.mp hn with rfl | hn
    · exact htimeout
    · exact hc.numbers n hn

lemma named_scroll {d : ScrollDraft} (hd : d.Named settings args) :
    (scroll d.direction d.amount d.target).Named settings args := by
  refine ⟨fun n hn => ?_, by simp [texts], fun n hn => ?_⟩
  · obtain ⟨u, hu, hk, hr⟩ := hd.target n (Option.mem_toList.mp hn)
    exact ⟨u, hu, hk, .inl hr⟩
  · rcases List.mem_cons.mp hn with rfl | hn
    · exact hd.amount
    · obtain ⟨u, hu, -, hr⟩ := hd.target n (Option.mem_toList.mp hn)
      exact .inl ⟨u, hu, hr⟩

lemma named_screenshot {name : String} (fullPage : Bool)
    (hname : (firstText? .string args).getD settings.screenshotName = name) :
    (screenshot name fullPage).Named settings args := by
  refine ⟨by simp [targets], fun s hs => ?_, by simp [numbers]⟩
  obtain rfl : s = name := by simpa [texts] using hs
  cases hfirst : firstText? .string args with
  | none =>
    have hnone : ∀ u ∈ args, u.kind ≠ .string := by
      simpa [firstText?] using hfirst
    rw [hfirst, Option.getD_none] at hname
    exact .inr ⟨hnone, fullPage, by rw [hname]⟩
  | some s' =>
    rw [hfirst, Option.getD_some] at hname
    exact .inl (of_firstText? (hname ▸ hfirst))

lemma Gathers.named {k : Keyword} (h : Gathers settings args k a) : a.Named settings args := by
  have htarget {n : ℤ} (hn : target? args = some n) : ∃ u ∈ args, u.kind = .targetId ∧
      (Decimal.read? u.text = some n ∨ Decimal.read? u.text = none ∧ n = defaultDuration ∧
        Takes args u ∧ ∃ condition timeout, a = .wait condition timeout) := by
    obtain ⟨u, hu, hk, hr⟩ := of_target? hn
    exact ⟨u, hu, hk, .inl hr⟩
  have hspells {n : ℤ} (hn : target? args = some n) : Spells settings args n := by
    obtain ⟨u, hu, -, hr⟩ := of_target? hn
    exact .inl ⟨u, hu, hr⟩
  cases h with
  | click hn | hover hn =>
    exact ⟨by simpa [targets] using htarget hn, by simp [texts], by simpa [numbers] using hspells hn⟩
  | type hn hs | uploadFile hn hs =>
    exact ⟨by simpa [targets] using htarget hn, by simpa [texts] using of_firstText? hs,
      by simpa [numbers] using hspells hn⟩
  | scroll hd =>
    have hstart : ScrollDraft.Named settings args ⟨.down, settings.scrollAmount, none⟩ :=
      ⟨by simp, .inr (by simp [Settings.numbers])⟩
    exact named_scroll (hd ▸ named_readScroll hstart (List.Subset.refl args))
  | wait hd =>
    obtain ⟨c, hwait, hc⟩ := awaits_readWait settings args
    rw [← hd, hwait]
    exact named_wait hc (spells_timeoutOf settings args)
  | pressKey hs | navigate hs =>
    exact ⟨by simp [targets], by simpa [texts] using of_firstText? hs, by simp [numbers]⟩
  | goBack | goForward | refresh => exact ⟨by simp [targets], by simp [texts], by simp [numbers]⟩
  | assert hn =>
    exact ⟨by simpa [targets] using htarget hn, fun s hs => .inl (of_readAssertion hs),
      by simpa [numbers] using hspells hn⟩
  | select hn hc =>
    refine ⟨by simpa [targets] using htarget hn, fun s hs => .inl (of_readChoice ?_), fun n hi => ?_⟩
    · simpa [texts, hc] using hs
    · rcases List.mem_cons.mp hi with rfl | hi
      · exact hspells hn
      · exact .inl (of_index_readChoice (hc ▸ Option.mem_toList.mp hi))
  | screenshot hname => exact named_screenshot _ hname

lemma Gathers.coherent {k : Keyword} (h : Gathers settings args k a) : a.Coherent := by
  cases h with
  | click => by_cases hd : has .double args = true <;> simp [Coherent, hd]
  | wait hd =>
    obtain ⟨c, hwait, hc⟩ := awaits_readWait settings args
    rw [← hd, hwait]
    exact hc.lasts
  | pressKey _ hne | uploadFile _ _ hne => exact hne
  | _ => trivial

end Action

lemma Token.Lexed.read? {u : Token} (hu : u.Lexed) (hk : u.kind = .targetId) :
    Decimal.read? u.text = if u.text.length ≤ Decimal.maxDigits then some (u.id : ℤ) else none := by
  obtain ⟨hne, hd⟩ := hu.digits hk
  rw [Decimal.read?_of_isDigit hd hne, String.length_toList, id]

namespace Walk

open Arguments

variable {settings : Settings} {span : List Token} {a : Action} {c d : Cursor}

lemma ofArguments?_of_action (h : (action settings span).on c = (.ok (some a), d)) :
    ∃ head args k, span = head :: args ∧ head.keyword = some k ∧
      Action.ofArguments? settings args k = some (some a) := by
  cases span with
  | nil => simp [action, on_pure] at h
  | cons head args =>
    rw [on_action] at h
    cases hs : Action.ofSpan settings head args with
    | error e => simp [hs] at h
    | ok b =>
      obtain ⟨k, hhead, hargs⟩ := Action.ofSpan_eq_ok_iff.mp hs
      obtain rfl : b = a := by simpa [hs] using congrArg Prod.fst h
      exact ⟨head, args, k, rfl, hhead, hargs⟩

/-- An action has its texts from strings of its span and its targets from target ids; only the name
of a screenshot may be that of the settings, where the span has no string. A target is the number
that its id spells, but where a wait takes an id with more digits than can be read: there it is the
default duration. -/
theorem names_of_span (hspan : ∀ t ∈ span, t.Lexed)
    (h : (action settings span).on c = (.ok (some a), d)) :
    (∀ s ∈ a.texts, (∃ u ∈ span, u.kind = .string ∧ u.text = s) ∨
      (∀ u ∈ span, u.kind ≠ .string) ∧
        ∃ fullPage, a = .screenshot settings.screenshotName fullPage) ∧
    ∀ n ∈ a.targets, ∃ u ∈ span, u.kind = .targetId ∧
      (u.text.length ≤ Decimal.maxDigits ∧ n = u.id ∨
        Decimal.maxDigits < u.text.length ∧ n = defaultDuration ∧ Takes span u ∧
          ∃ condition timeout, a = .wait condition timeout) := by
  obtain ⟨head, args, k, rfl, hhead, hargs⟩ := ofArguments?_of_action h
  obtain ⟨htargets, htexts, -⟩ := (Action.gathers_of_ofArguments? hargs).named
  have hword : head.kind = .keyword := Token.kind_of_keyword hhead
  refine ⟨fun s hs => ?_, fun n hn => ?_⟩
  · rcases htexts s hs with ⟨u, hu, hk, hs⟩ | ⟨hnone, hname⟩
    · exact .inl ⟨u, by simp [hu], hk, hs⟩
    · exact .inr ⟨List.forall_mem_cons.mpr ⟨by simp [hword], hnone⟩, hname⟩
  · obtain ⟨u, hu, hk, hr⟩ := htargets n hn
    refine ⟨u, by simp [hu], hk, ?_⟩
    rw [(hspan u (by simp [hu])).read? hk] at hr
    by_cases hshort : u.text.length ≤ Decimal.maxDigits
    · exact .inl ⟨hshort, by simpa [hshort, eq_comm] using hr⟩
    · obtain ⟨hdefault, htakes, hwait⟩ := by simpa [hshort] using hr
      exact .inr ⟨not_le.mp hshort, hdefault, htakes.cons head, hwait⟩

def asserting : List Token :=
  Token.ofLine 1 "assert #12 attributeEquals \"k\" \"v\""

theorem names_of_span_asserting :
    (∀ t ∈ asserting, t.Lexed) ∧
    (action {} asserting).on (.ofTokens []) =
      (.ok (some (.assert 12 (.attributeEquals "k" "v"))), .ofTokens []) ∧
    (∀ s ∈ ["k", "v"], ∃ u ∈ asserting, u.kind = .string ∧ u.text = s) ∧
    ∃ u ∈ asserting, u.kind = .targetId ∧ (12 : ℤ) = u.id := by
  have hlexed : ∀ t ∈ asserting, t.Lexed := fun t ht => ⟨_, _, ht⟩
  have htokens : asserting = [⟨.keyword, "assert", 1, 0⟩, ⟨.targetId, "12", 1, 7⟩,
      ⟨.keyword, "attributeEquals", 1, 11⟩, ⟨.string, "k", 1, 27⟩, ⟨.string, "v", 1, 31⟩] := by
    decide +kernel
  have haction : (action {} asserting).on (.ofTokens []) =
      (.ok (some (.assert 12 (.attributeEquals "k" "v"))), .ofTokens []) := by
    rw [htokens, on_action]
    have hspan : Action.ofSpan {} ⟨.keyword, "assert", 1, 0⟩ [⟨.targetId, "12", 1, 7⟩,
        ⟨.keyword, "attributeEquals", 1, 11⟩, ⟨.string, "k", 1, 27⟩, ⟨.string, "v", 1, 31⟩] =
        .ok (.assert 12 (.attributeEquals "k" "v")) := by
      decide +kernel
    rw [hspan]
  obtain ⟨htexts, htargets⟩ := names_of_span hlexed haction
  refine ⟨hlexed, haction, fun s hs => ?_, ?_⟩
  · rcases htexts s hs with hs | ⟨-, _, hname⟩
    · exact hs
    · simp at hname
  · obtain ⟨u, hu, hk, ⟨-, hid⟩ | ⟨-, -, -, _, _, hwait⟩⟩ := htargets 12 (by simp [Action.targets])
    · exact ⟨u, hu, hk, hid⟩
    · simp at hwait

lemma ofSpan_unread {s : String} (h : Decimal.read? s = none) :
    Action.ofSpan {} ⟨.keyword, "wait", 1, 0⟩ [⟨.keyword, "visible", 1, 5⟩, ⟨.targetId, s, 1, 13⟩] =
      .ok (.wait (.elementVisible 1000) 5000) := by
  have hwait : Token.keyword ⟨.keyword, "wait", 1, 0⟩ = some .wait := by decide +kernel
  have hvisible : Token.keyword ⟨.keyword, "visible", 1, 5⟩ = some .visible := by decide +kernel
  simp [Action.ofSpan, hwait, Action.ofArguments?, readWait, hvisible, condition?, front?, h,
    integerOr, WaitDraft.wait, defaultDuration]

lemma id_text (n : ℕ) (line : ℤ) (column : ℕ) :
    Token.id ⟨.targetId, Decimal.text n, line, column⟩ = n := by
  simp [Token.id, Decimal.text, Decimal.chars, Decimal.digitChars]

def unreadable : ℕ :=
  10 ^ Decimal.maxDigits

lemma isShort_unreadable : Decimal.isShort unreadable = false := by
  rw [← Bool.not_eq_true, Decimal.isShort_iff, Int.natAbs_natCast, unreadable]
  exact lt_irrefl _

def overlong : String :=
  String.ofList (Word.line 0 [.keyword .wait, .keyword .visible, .target unreadable])

lemma ofLine_overlong : Token.ofLine 1 overlong = [⟨.keyword, "wait", 1, 0⟩,
    ⟨.keyword, "visible", 1, 5⟩, ⟨.targetId, Decimal.text unreadable, 1, 13⟩] := by
  have hstands : ∀ w ∈ [Word.keyword .wait, Word.keyword .visible, Word.target unreadable],
      w.Stands := by
    simp only [List.forall_mem_cons]
    exact ⟨Word.keyword_stands _, Word.keyword_stands _,
      Word.target_stands (Int.natCast_nonneg _), by simp⟩
  exact Word.ofLine_line (Word.aligned_of_stands hstands) (by simp [Word.keyword]) 1 0

theorem awaits_unnamed_target :
    (∀ t ∈ Token.ofLine 1 overlong, t.Lexed) ∧
    (action {} (Token.ofLine 1 overlong)).on (.ofTokens []) =
      (.ok (some (.wait (.elementVisible 1000) 5000)), .ofTokens []) ∧
    ∀ t ∈ Token.ofLine 1 overlong, t.kind = .targetId → (t.id : ℤ) ≠ 1000 := by
  refine ⟨fun t ht => ⟨_, _, ht⟩, ?_, ?_⟩
  · rw [ofLine_overlong, on_action, ofSpan_unread (Decimal.read?_text_of_long isShort_unreadable)]
  · rw [ofLine_overlong]
    simp only [List.forall_mem_cons, reduceCtorEq, false_implies, true_and, forall_const]
    have hlt : 10 ^ 3 < unreadable := Nat.pow_lt_pow_right (by decide) (by decide)
    refine ⟨?_, List.forall_mem_nil _⟩
    rw [id_text]
    omega

end Walk

end ScenarioScript
