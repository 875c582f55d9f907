import ScenarioScript.Proofs.Arguments
import ScenarioScript.Proofs.Walk
import ScenarioScript.Walk.Action

namespace ScenarioScript

lemma Arguments.button_named {k : Keyword} {b : MouseButton} (h : button? k = some b) :
    MouseButton.named k.spelling = .ok b := by
  cases k <;> simp [button?] at h <;> subst h <;> rfl

lemma Arguments.direction_named {k : Keyword} {d : ScrollDirection} (h : direction? k = some d) :
    ScrollDirection.named k.spelling = .ok d := by
  cases k <;> simp [direction?] at h <;> subst h <;> rfl

namespace Walk

open Arguments

variable {settings : Settings}

@[simp]
lemma tokenAfter_append (pre : List Token) (t : Token) (rest : List Token) (kind : TokenKind) :
    tokenAfter (pre ++ t :: rest) pre.length kind = pure (ahead? kind rest) := by
  cases rest with
  | nil => simp [tokenAfter, ahead?]
  | cons u rest =>
    have hu : tokenAt (pre ++ t :: u :: rest) (pre.length + 1) = pure u := by
      simpa using tokenAt_append (pre ++ [t]) u rest
    by_cases h : u.kind = kind <;> simp [tokenAfter, ahead?, hu, h]

@[simp]
lemma tokenAfter_append_succ (pre : List Token) (t : Token) (rest : List Token) (kind : TokenKind) :
    tokenAfter (pre ++ t :: rest) (pre.length + 1) kind = pure (ahead? kind rest.tail) := by
  cases rest with
  | nil =>
    rw [tokenAfter, if_neg (by simp)]
    rfl
  | cons u rest => simpa using tokenAfter_append (pre ++ [t]) u rest kind

lemma spanTurns_append (head : Token) (pre ts taken : List Token) :
    along (pre ++ ts) (spanTurn head (pre ++ ts)) taken pre.length =
      pure (taken ++ (Span.cut head ts).1, pre.length + (Span.cut head ts).1.length) := by
  induction ts generalizing pre taken with
  | nil => exact along_done (by simp [spanTurn, Span.cut])
  | cons t ts ih =>
    cases he : Span.endsAt head t with
    | true => exact along_done (by simp [spanTurn, Span.cut, he])
    | false =>
      refine along_past [t] (by simp) (by simp [spanTurn, he])
        ((ih (pre ++ [t]) (taken ++ [t])).trans ?_)
      simp [Span.cut, he, Nat.add_assoc, Nat.add_comm 1]

lemma span_append (pre : List Token) (head : Token) (ts : List Token) :
    span (pre ++ head :: ts) pre.length =
      pure (head :: (Span.cut head ts).1, pre.length + (head :: (Span.cut head ts).1).length) := by
  rw [span, tokenAt_append, pure_bind]
  simpa [Nat.add_assoc, Nat.add_comm 1] using spanTurns_append head (pre ++ [head]) ts [head]

lemma targetOf_eq (args : List Token) : targetOf args = pure (target? args) := by
  unfold targetOf target? firstText? first?
  cases args.find? (·.kind = .targetId) <;> simp

lemma firstText?_eq (kind : TokenKind) (args : List Token) :
    firstText? kind args = (first? kind args).map (·.text) :=
  rfl

lemma clickTurn_eq (s : MouseButton × ℤ) (t : Token) :
    clickTurn s t =
      pure ((t.keyword.bind button?).getD s.1, if t.is .double then 2 else s.2) := by
  unfold clickTurn
  cases hb : t.keyword.bind button? with
  | none => cases ht : t.is .double <;> simp
  | some b =>
    obtain ⟨k, hk, hkb⟩ := Option.bind_eq_some_iff.mp hb
    have hd : t.is .double = false := by
      simp only [Token.is, hk, Option.some.injEq, decide_eq_false_iff_not]
      rintro rfl
      simp [button?] at hkb
    simp [hk, hd, having, named_of (button_named hkb)]

lemma foldl_click (args : List Token) (b : MouseButton) (n : ℤ) :
    args.foldl (fun s t => ((t.keyword.bind button?).getD s.1, if t.is .double then 2 else s.2))
      (b, n) =
      ((args.filterMap (·.keyword.bind button?)).getLast?.getD b,
        if has .double args then 2 else n) := by
  induction args generalizing b n with
  | nil => rfl
  | cons t args ih =>
    rw [List.foldl_cons, ih]
    simp only [has, List.any_cons]
    cases hb : t.keyword.bind button? with
    | none => by_cases ht : t.is .double = true <;> simp [hb, ht]
    | some b => by_cases ht : t.is .double = true <;> simp [hb, ht, List.getLast?_cons]

lemma click_eq (args : List Token) :
    click args = pure do
      return Action.click (← target? args) (lastButton args) (if has .double args then 2 else 1) := by
  unfold click
  rw [targetOf_eq, pure_bind]
  cases target? args with
  | none => rfl
  | some target =>
    change (do let s ← args.foldlM clickTurn (.left, 1); pure (some (Action.click target s.1 s.2))) = _
    rw [foldlM_eq clickTurn_eq, pure_bind, foldl_click]
    rfl

lemma type_eq (args : List Token) :
    type args = pure do
      return Action.type (← target? args) (← firstText? .string args) (has .clearFirst args)
        (has .pressEnter args) := by
  unfold type
  rw [targetOf_eq, pure_bind, firstText?_eq]
  cases target? args <;> cases first? .string args <;> rfl

lemma hover_eq (args : List Token) : hover args = pure do return Action.hover (← target? args) := by
  unfold hover
  rw [targetOf_eq, pure_bind]
  cases target? args <;> rfl

lemma scrollTurn_eq (d : ScrollDraft) (t : Token) :
    scrollTurn settings d t = pure (readScroll settings d t) := by
  unfold scrollTurn readScroll
  cases t.kind with
  | targetId => simp
  | number => simp [integerOr]
  | _ =>
    cases hd : t.keyword.bind direction? with
    | none => simp
    | some d =>
      obtain ⟨k, hk, hkd⟩ := Option.bind_eq_some_iff.mp hd
      simp [hk, having, named_of (direction_named hkd)]

lemma scroll_eq (args : List Token) :
    scroll settings args = pure (some (
      let d := args.foldl (readScroll settings) ⟨.down, settings.scrollAmount, none⟩
      Action.scroll d.direction d.amount d.target)) := by
  rw [scroll, foldlM_eq scrollTurn_eq, pure_bind]

lemma navigate_eq (args : List Token) :
    navigate args = pure do return Action.navigate (← firstText? .string args) := by
  rw [navigate, firstText?_eq]
  cases first? .string args <;> rfl

lemma pressKey_eq (args : List Token) :
    pressKey args = pure do
      return Action.pressKey (← (firstText? .string args).bind nonempty?) (modifiers args) := by
  have hheld := mapM_eq (f := fun t : Token => entry modifier? t.keyword) (l := args)
    (g := fun t => t.keyword.bind modifier?) fun t m h => entry_of h
  unfold pressKey
  rw [firstText?_eq]
  cases ht : first? .string args with
  | none => rfl
  | some t =>
    cases hn : nonempty? t.text with
    | none => simp [hn]
    | some key =>
      simp only [Option.bind_some, Option.map_some, hn, hheld, pure_bind]
      rfl

lemma uploadFile_eq (args : List Token) :
    uploadFile args = pure do
      return Action.uploadFile (← target? args) (← (firstText? .string args).bind nonempty?) := by
  unfold uploadFile
  rw [targetOf_eq, pure_bind, firstText?_eq]
  cases target? args with
  | none => rfl
  | some target =>
    cases first? .string args with
    | none => rfl
    | some t => cases hn : nonempty? t.text <;> simp [hn]

lemma screenshot_eq (args : List Token) :
    screenshot settings args = pure (some (Action.screenshot
      ((firstText? .string args).getD settings.screenshotName) (has .fullPage args))) :=
  rfl

def WaitFound.draft (w : WaitFound) : WaitDraft where
  condition := w.deferred.getD fun _ => w.condition.getD (.duration defaultDuration)
  timeout := w.timeout

lemma WaitFound.wait_draft (w : WaitFound) : w.draft.wait = w.wait := by
  unfold WaitFound.wait WaitDraft.wait WaitFound.draft
  cases w.deferred <;> rfl

def Factory.condition : Factory → String → WaitCondition
  | ofInteger _ make, s => make (integerOr defaultDuration s)
  | ofText make, s => make s

lemma Factory.make_eq (f : Factory) (s : String) : f.make s = pure (f.condition s) := by
  cases f with
  | ofInteger kind make => simp [Factory.make, condition, integerOr]
  | ofText make => rfl

lemma condition?_eq (k : Keyword) :
    condition? k = (factory? k).map fun f => (f.kind, f.condition) := by
  cases k <;> rfl

lemma factory?_of_condition? {k : Keyword} {kind : TokenKind} {condition : String → WaitCondition}
    (h : condition? k = some (kind, condition)) :
    ∃ f, factory? k = some f ∧ f.kind = kind ∧ f.condition = condition := by
  rw [condition?_eq] at h
  obtain ⟨f, hf, he⟩ := Option.map_eq_some_iff.mp h
  exact ⟨f, hf, congrArg Prod.fst he, congrArg Prod.snd he⟩

lemma factory?_of_condition?_none {k : Keyword} (h : condition? k = none) : factory? k = none := by
  rwa [condition?_eq, Option.map_eq_none_iff] at h

lemma waitTurns_append (settings : Settings) {d : WaitDraft} (pre args : List Token) {w : WaitFound}
    (hd : w.draft = d) :
    ∃ v, along (pre ++ args) (waitTurn settings (pre ++ args)) w pre.length = pure v ∧
      v.draft = readWait settings d args := by
  fun_induction readWait settings d args generalizing pre w with
  | case1 d => exact ⟨w, along_done (by simp [waitTurn]), hd⟩
  | case2 d t rest hk ms ih =>
    obtain ⟨v, hv, hr⟩ := ih (pre ++ [t]) (w := ⟨some (.duration ms), none, w.timeout⟩)
      (by rw [← hd]; rfl)
    refine ⟨v, along_past [t] (by simp) ?_ hv, hr⟩
    simp [waitTurn, hk, ms, integerOr]
  | case3 d t rest hk hw ih =>
    obtain ⟨v, hv, hr⟩ := ih (pre ++ [t]) hd
    refine ⟨v, along_past [t] (by simp) ?_ hv, hr⟩
    simp [waitTurn, hk, hw, Token.is]
  | case4 d t rest hk k hw kind condition hc text ht ih =>
    obtain ⟨f, hf, rfl, rfl⟩ := factory?_of_condition? hc
    obtain ⟨u, us, rfl, hu, rfl⟩ := ahead?_of_front? ht
    obtain ⟨v, hv, hr⟩ := ih (pre ++ [t, u]) (w := ⟨some (f.condition u.text), none, w.timeout⟩)
      (by rw [← hd]; rfl)
    refine ⟨v, along_past [t, u] (by simp) ?_ hv, hr⟩
    simp [waitTurn, hk, hw, hf, hu, entry, Factory.make_eq]
  | case5 d t rest hk k hw kind condition hc ht ih =>
    obtain ⟨f, hf, rfl, rfl⟩ := factory?_of_condition? hc
    obtain ⟨v, hv, hr⟩ := ih (pre ++ [t]) hd
    refine ⟨v, along_past [t] (by simp) ?_ hv, hr⟩
    simp [waitTurn, hk, hw, hf, ahead?_of_front?_none ht, entry]
  | case6 d t rest hk k hw condition hc hn ih =>
    obtain ⟨v, hv, hr⟩ := ih (pre ++ [t]) (w := ⟨none, some condition, w.timeout⟩)
      (by rw [← hd]; rfl)
    refine ⟨v, along_past [t] (by simp) ?_ hv, hr⟩
    simp [waitTurn, hk, hw, hc, factory?_of_condition?_none hn, entry]
  | case7 d t rest hk text ht hw hc hn ih =>
    obtain ⟨u, us, rfl, hu, rfl⟩ := ahead?_of_front? ht
    obtain ⟨v, hv, hr⟩ := ih (pre ++ [t, u])
      (w := { w with timeout := integerOr settings.waitTimeout u.text }) (by rw [← hd]; rfl)
    refine ⟨v, along_past [t, u] (by simp) ?_ hv, hr⟩
    simp [waitTurn, hk, hw, hc, factory?_of_condition?_none hn, Token.is, hu, integerOr]
  | case8 d t rest hk ht hw hc hn ih =>
    obtain ⟨v, hv, hr⟩ := ih (pre ++ [t]) hd
    refine ⟨v, along_past [t] (by simp) ?_ hv, hr⟩
    simp [waitTurn, hk, hw, hc, factory?_of_condition?_none hn, Token.is,
      ahead?_of_front?_none ht]
  | case9 d t rest hk k hw hc hn hne ih =>
    obtain ⟨v, hv, hr⟩ := ih (pre ++ [t]) hd
    refine ⟨v, along_past [t] (by simp) ?_ hv, hr⟩
    simp [waitTurn, hk, hw, hc, hne, factory?_of_condition?_none hn, Token.is]

lemma wait_eq (args : List Token) :
    wait settings args = pure (some
      (readWait settings ⟨fun _ => .duration defaultDuration, settings.waitTimeout⟩ args).wait) := by
  obtain ⟨v, hv, hr⟩ := waitTurns_append settings [] args
    (w := ⟨none, none, settings.waitTimeout⟩) rfl
  rw [List.nil_append, List.length_nil] at hv
  rw [wait, hv, pure_bind, ← v.wait_draft, hr]
  rfl

lemma assertTurns_append (pre args : List Token) (a : Assertion) :
    along (pre ++ args) (assertTurn (pre ++ args)) a pre.length = pure (readAssertion a args) := by
  fun_induction readAssertion a args generalizing pre with
  | case1 a => exact along_done (by simp [assertTurn])
  | case2 a t rest hw ih =>
    refine along_past [t] (by simp) ?_ (ih (pre ++ [t]))
    simp [assertTurn, hw, Token.is]
  | case3 a t rest k hw b hb ih =>
    refine along_past [t] (by simp) ?_ (ih (pre ++ [t]))
    simp [assertTurn, hw, hb, entry]
  | case4 a t rest k hw b hb hf text ht ih =>
    obtain ⟨u, us, rfl, hu, rfl⟩ := ahead?_of_front? ht
    refine along_past [t, u] (by simp) ?_ (ih (pre ++ [t, u]))
    simp [assertTurn, hw, hb, hf, hu, entry]
  | case5 a t rest k hw b hb hf ht ih =>
    refine along_past [t] (by simp) ?_ (ih (pre ++ [t]))
    simp [assertTurn, hw, hf, ahead?_of_front?_none ht]
  | case6 a t rest name value hv hn hw hb hf ih =>
    obtain ⟨u, us, rfl, hu, rfl⟩ := ahead?_of_front? hn
    obtain ⟨v, vs, rfl : us = v :: vs, ha, rfl⟩ := ahead?_of_front? hv
    rw [List.tail_cons] at ha
    refine along_past [t, u, v] (by simp) ?_ (ih (pre ++ [t, u, v]))
    simp [assertTurn, hw, hb, hf, hu, ha, Token.is]
  | case7 a t rest hne hw hb hf ih =>
    refine along_past [t] (by simp) ?_ (ih (pre ++ [t]))
    cases hn : ahead? .string rest with
    | none => simp [assertTurn, hw, hf, hn, Token.is]
    | some u =>
      cases hv : ahead? .string rest.tail with
      | none => simp [assertTurn, hw, hb, hf, hn, hv, Token.is]
      | some v => exact (hne u.text v.text (by rw [front?_eq, hn]; rfl) (by rw [front?_eq, hv]; rfl)).elim
  | case8 a t rest k hw hb hf hne ih =>
    refine along_past [t] (by simp) ?_ (ih (pre ++ [t]))
    simp [assertTurn, hw, hb, hf, hne, Token.is]

lemma assert_eq (args : List Token) :
    assert args = pure do
      return Action.assert (← target? args) (readAssertion .visible args) := by
  unfold assert
  rw [targetOf_eq, pure_bind]
  cases target? args with
  | none => rfl
  | some target =>
    have hturns := assertTurns_append [] args .visible
    rw [List.nil_append, List.length_nil] at hturns
    simp only [hturns, pure_bind]
    rfl

lemma selectTurns_append (pre args : List Token) (c : Choice) :
    along (pre ++ args) (selectTurn (pre ++ args)) c pre.length = pure (readChoice c args) := by
  fun_induction readChoice c args generalizing pre with
  | case1 c => exact along_done (by simp [selectTurn])
  | case2 c t rest hw text ht ih | case4 c t rest hw text ht ih | case6 c t rest hw text ht ih =>
    obtain ⟨u, us, rfl, hu, rfl⟩ := ahead?_of_front? ht
    refine along_past [t, u] (by simp) ?_ (ih (pre ++ [t, u]))
    simp [selectTurn, hw, hu, Token.is]
  | case3 c t rest hw ht ih | case5 c t rest hw ht ih | case7 c t rest hw ht ih =>
    refine along_past [t] (by simp) ?_ (ih (pre ++ [t]))
    simp [selectTurn, hw, ahead?_of_front?_none ht, Token.is]
  | case8 c t rest hv hl hi ih =>
    refine along_past [t] (by simp) ?_ (ih (pre ++ [t]))
    simp [selectTurn, Token.is, show t.keyword ≠ some .value from hv,
      show t.keyword ≠ some .label from hl, show t.keyword ≠ some .index from hi]

lemma select_eq (args : List Token) :
    select args = pure do
      let target ← target? args
      let c := readChoice ⟨none, none, none⟩ args
      return Action.select target c.value c.label c.index := by
  unfold select
  rw [targetOf_eq, pure_bind]
  cases target? args with
  | none => rfl
  | some target =>
    have hturns := selectTurns_append [] args ⟨none, none, none⟩
    rw [List.nil_append, List.length_nil] at hturns
    simp only [hturns, pure_bind]
    rfl

lemma reader?_eq (settings : Settings) (k : Keyword) (args : List Token) :
    (reader? settings k).map (fun read => read args) =
      (Action.ofArguments? settings args k).map pure := by
  cases k with
  | click => exact congrArg some (click_eq args)
  | type => exact congrArg some (type_eq args)
  | hover => exact congrArg some (hover_eq args)
  | scroll => exact congrArg some (scroll_eq args)
  | wait => exact congrArg some (wait_eq args)
  | pressKey => exact congrArg some (pressKey_eq args)
  | navigate => exact congrArg some (navigate_eq args)
  | assert => exact congrArg some (assert_eq args)
  | select => exact congrArg some (select_eq args)
  | uploadFile => exact congrArg some (uploadFile_eq args)
  | screenshot => exact congrArg some (screenshot_eq args)
  | _ => rfl

lemma reader?_of_none {k : Keyword} {args : List Token} (h : reader? settings k = none) :
    Action.ofArguments? settings args k = none := by
  have hk := reader?_eq settings k args
  rw [h] at hk
  exact Option.map_eq_none_iff.mp hk.symm

lemma reader?_of_some {k : Keyword} {read : List Token → Walk (Option Action)}
    (h : reader? settings k = some read) (args : List Token) :
    ∃ a, Action.ofArguments? settings args k = some a ∧ read args = pure a := by
  have hk := reader?_eq settings k args
  rw [h] at hk
  obtain ⟨a, ha, hr⟩ := Option.map_eq_some_iff.mp hk.symm
  exact ⟨a, ha, hr.symm⟩

lemma on_action (settings : Settings) (head : Token) (args : List Token) (c : Cursor) :
    (action settings (head :: args)).on c = match Action.ofSpan settings head args with
      | .ok a => (.ok (some a), c)
      | .error e => (.ok none, c.noting [e]) := by
  have hhead : tokenAt (head :: args) 0 = pure head := tokenAt_append [] head args
  unfold action Action.ofSpan
  rw [if_neg (by simp), hhead, pure_bind]
  cases hr : head.keyword.bind (reader? settings) with
  | none =>
    have ha : head.keyword.bind (Action.ofArguments? settings args) = none := by
      rw [Option.bind_eq_none_iff] at hr ⊢
      exact fun k hk => reader?_of_none (hr k hk)
    rw [ha]
    rfl
  | some read =>
    obtain ⟨k, hk, hkr⟩ := Option.bind_eq_some_iff.mp hr
    obtain ⟨a, ha, hread⟩ := reader?_of_some hkr args
    simp only [hk, Option.bind_some, ha, List.drop_one, List.tail_cons, hread, pure_bind]
    cases a <;> rfl

end Walk

end ScenarioScript
