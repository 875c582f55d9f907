import ScenarioScript.Proofs.Entry.Values

namespace ScenarioScript

namespace Runs

open Arguments

variable {settings : Settings} {description : String} {body : List Token} {t : Token} {i : Nat}
  {k : Keyword}

def resolved? (settings : Settings) (body : List Token) (i : Nat) : Option Action :=
  (Action.ofTokens settings (spanAt body i)).1

def actionBefore? (settings : Settings) (body : List Token) (n : Nat) : Option Action :=
  ((List.range n).filter (startsRun body)).findSome? (resolved? settings body)

def further (description : String) (t : Token) : Caution :=
  ⟨t.line, .furtherAction description t.text⟩

def negative (description : String) (v : Token) : Caution :=
  ⟨v.line, .negativeRetries description⟩

/-- What there is to note at a position: a run behind the one that is the action, a run before it,
or a negative number of retries. -/
def cautionsAt (settings : Settings) (description : String) (body : List Token) (i : Nat) :
    List Caution :=
  if startsRun body i then
    if (actionBefore? settings body i).isSome then ((body[i]?).map (further description)).toList
    else (Action.ofTokens settings (spanAt body i)).2
  else (((valueAt? .retry .number body i).filter (count · < 0)).map (negative description)).toList

lemma actionBefore?_succ (settings : Settings) (body : List Token) (i : Nat) :
    actionBefore? settings body (i + 1) =
      (actionBefore? settings body i).or
        (if startsRun body i then resolved? settings body i else none) := by
  rw [actionBefore?, List.range_succ, List.filter_append, List.findSome?_append, actionBefore?]
  cases hs : startsRun body i <;> simp [hs]

lemma addAll_run (description : String) {d : StepDraft}
    (hd : d.action = actionBefore? settings body i) (hs : startsRun body i = true) :
    (d.addAll settings description (entriesAt body i)).1.action =
        (actionBefore? settings body i).or (resolved? settings body i) ∧
      (d.addAll settings description (entriesAt body i)).2 =
        cautionsAt settings description body i := by
  obtain ⟨⟨t, ht, hopens⟩, hin⟩ := startsRun_iff.mp hs
  rw [entriesAt_free hin ht, readAt_run hopens, cautionsAt, if_pos hs, ← hd, resolved?,
    spanAt_eq ht, Action.ofTokens, ht]
  cases ha : d.action with
  | some a => simp [StepDraft.addAll, StepDraft.add, ha, further]
  | none =>
    cases hspan : Action.ofSpan settings t (Span.cut t (body.drop (i + 1))).1 <;>
      simp [StepDraft.addAll, StepDraft.add, ha, hspan]

lemma addAll_readAt (settings : Settings) (description : String) (d : StepDraft)
    (h : t.opensRun = false) (ts : List Token) :
    (d.addAll settings description (Entry.readAt t ts).1).1.action = d.action ∧
      (d.addAll settings description (Entry.readAt t ts).1).2 =
        if t.is .retry then
          (((ahead? .number ts).filter (count · < 0)).map (negative description)).toList
        else [] := by
  rcases readAt_cases h ts with ⟨hkind, hread⟩ | ⟨hk, hread⟩ | ⟨k, kind, e, hk, ha, hread⟩
  · simp [hread, Token.is_eq_false_of_kind_ne hkind, StepDraft.addAll]
  · simp [hread, Token.is, hk, StepDraft.addAll, StepDraft.add]
  · rw [hread, Walk.ofArgument_eq]
    rcases of_argument? ha with ⟨rfl, rfl, rfl⟩ | ⟨rfl, rfl, rfl⟩ | ⟨rfl, rfl, rfl⟩
    · cases ahead? .string ts <;> simp [Token.is, hk, StepDraft.addAll, StepDraft.add]
    · cases ahead? .number ts <;> simp [Token.is, hk, StepDraft.addAll, StepDraft.add]
    · cases ahead? .number ts with
      | none => simp [StepDraft.addAll]
      | some v =>
        have hadd : StepDraft.add settings description d (Entry.retryOf v) =
          if count v < 0 then ({ d with retries := 0 }, [negative description v])
          else ({ d with retries := count v }, []) := rfl
        by_cases hneg : count v < 0 <;>
          simp [Token.is, hk, hneg, StepDraft.addAll, hadd, Option.filter_some, -not_lt]

lemma addAll_setting (settings : Settings) (description : String) (d : StepDraft)
    (hs : startsRun body i = false) :
    (d.addAll settings description (entriesAt body i)).1.action = d.action ∧
      (d.addAll settings description (entriesAt body i)).2 =
        cautionsAt settings description body i := by
  rw [cautionsAt, if_neg (by simp [hs])]
  cases hin : inside body i with
  | true =>
    have hnot : (body[i]?).any (·.is .retry) = false := Bool.eq_false_iff.mpr fun hi => by
      have := (of_inside rfl hin hi).1
      simp at this
    rw [entriesAt_inside hin, valueAt?_eq_none hnot]
    exact ⟨rfl, rfl⟩
  | false =>
    cases ht : body[i]? with
    | none => simp [entriesAt_none ht, valueAt?, ht, StepDraft.addAll]
    | some t =>
      have hopens : t.opensRun = false := Bool.eq_false_iff.mpr fun h => by
        simp [startsRun_iff.mpr ⟨⟨t, ht, h⟩, hin⟩] at hs
      obtain ⟨haction, hcautions⟩ := addAll_readAt settings description d hopens (body.drop (i + 1))
      rw [entriesAt_free hin ht, haction, hcautions, valueAt?, ht]
      cases hk : t.is .retry <;> simp [hk]

lemma addAll_before (settings : Settings) (description : String) (body : List Token) (n : Nat) :
    (StepDraft.empty.addAll settings description ((List.range n).flatMap (entriesAt body))).1.action =
        actionBefore? settings body n ∧
      (StepDraft.empty.addAll settings description ((List.range n).flatMap (entriesAt body))).2 =
        (List.range n).flatMap (cautionsAt settings description body) := by
  induction n with
  | zero => exact ⟨rfl, rfl⟩
  | succ n ih =>
    rw [List.range_succ, List.flatMap_append, List.flatMap_append, StepDraft.addAll_append,
      actionBefore?_succ, List.flatMap_singleton, List.flatMap_singleton, ih.2]
    cases hs : startsRun body n with
    | true =>
      obtain ⟨haction, hcautions⟩ := addAll_run description ih.1 hs
      rw [haction, hcautions]
      exact ⟨rfl, rfl⟩
    | false =>
      obtain ⟨haction, hcautions⟩ := addAll_setting settings description
        (StepDraft.empty.addAll settings description ((List.range n).flatMap (entriesAt body))).1 hs
      rw [haction, hcautions, ih.1]
      simp

lemma length_cautions_ofTokens (ht : body[i]? = some t) :
    (Action.ofTokens settings (spanAt body i)).2.length =
      if (resolved? settings body i).isSome then 0 else 1 := by
  rw [resolved?, spanAt_eq ht, Action.ofTokens]
  cases Action.ofSpan settings t (Span.cut t (body.drop (i + 1))).1 <;> rfl

lemma mem_starts : i ∈ starts body ↔ startsRun body i = true := by
  rw [starts, List.mem_filter, List.mem_range, and_iff_right_iff_imp]
  intro hs
  obtain ⟨⟨t, ht, -⟩, -⟩ := startsRun_iff.mp hs
  exact (List.getElem?_eq_some_iff.mp ht).1

lemma startsRun_of_isAction (ht : body[i]? = some t) (hk : t.keyword = some k)
    (ha : k.isAction = true) : startsRun body i = true := by
  have hset : k.isStepSetting = false := by
    cases k <;> first | rfl | simp [Keyword.isAction] at ha
  refine startsRun_iff.mpr ⟨⟨t, ht, Token.opensRun_iff.mpr ⟨Token.kind_of_keyword hk, ?_⟩⟩, ?_⟩
  · rintro k' hk'
    obtain rfl := Option.some.inj (hk.symm.trans hk')
    exact hset
  · refine Bool.eq_false_iff.mpr fun hin => ?_
    obtain ⟨j, hj, hs, hstop⟩ := exists_of_inside hin
    obtain ⟨head, hhead, -⟩ := (startsRun_iff.mp hs).1
    have hends := endsAt_eq_false hhead ht hj hstop
    simp [Span.endsAt, hk, ha] at hends

end Runs

namespace Walk

open Runs

lemma span_on (body : List Token) {i : Nat} {t : Token} (ht : body[i]? = some t) :
    span body i = pure (spanAt body i, stop body i) := by
  have hsplit : body = body.take i ++ t :: body.drop (i + 1) := by
    rw [← drop_eq_cons ht, List.take_append_drop]
  have hlength : (body.take i).length = i := by
    rw [List.length_take, min_eq_left (List.getElem?_eq_some_iff.mp ht).1.le]
  have h := span_append (body.take i) t (body.drop (i + 1))
  rwa [← hsplit, hlength, ← spanAt_eq ht] at h

lemma on_action_span (settings : Settings) {body : List Token} {i : Nat} {t : Token}
    (ht : body[i]? = some t) (c : Cursor) : (action settings (spanAt body i)).on c =
      (.ok (resolved? settings body i), c.noting (Action.ofTokens settings (spanAt body i)).2) := by
  rw [resolved?, spanAt_eq ht, on_action, Action.ofTokens]
  cases Action.ofSpan settings t (Span.cut t (body.drop (i + 1))).1 with
  | ok a => rw [Cursor.noting_nil]
  | error e => rfl

lemma draft_eq (settings : Settings) (description : String) (body : List Token) :
    StepDraft.empty.addAll settings description (Entry.all body) =
      (⟨(starts body).findSome? (resolved? settings body),
        (values .expect .string body).getLast?.map (·.text),
        (timeouts body).getLast?.bind fun v => Decimal.read? v.text,
        ((values .retry .number body).getLast?.map fun v => max 0 (count v)).getD 0,
        body.any (·.is .continueOnFailure)⟩,
      (List.range body.length).flatMap (cautionsAt settings description body)) := by
  obtain ⟨haction, hcautions⟩ := addAll_before settings description body body.length
  rw [← all_eq_flatMap] at haction hcautions
  have hexpected := expected_draft settings description body
  have htimeout := timeout_draft settings description body
  have hretries := retries_draft settings description body
  have hcontinues := continues_draft settings description body
  generalize StepDraft.empty.addAll settings description (Entry.all body) = d at *
  obtain ⟨⟨action, expected, timeout, retries, continues⟩, cautions⟩ := d
  dsimp only at *
  rw [haction, hcautions, hexpected, htimeout, hretries, hcontinues]
  rfl

/-- The step of a body. Its action is the first run that stands for one; each run before it is noted
once, and so is each run behind it. Its settings are the last ones with a value. -/
theorem settle_eq_by_runs (settings : Settings) (head : Token) (index : Nat) (description : String)
    (body : List Token) (c : Cursor) :
    (settle settings head index description body).on c =
      (.ok (((starts body).findSome? (resolved? settings body)).map fun a =>
        ⟨Script.stepId index, description, a,
          (values .expect .string body).getLast?.map (·.text),
          (timeouts body).getLast?.bind fun v => Decimal.read? v.text,
          ((values .retry .number body).getLast?.map fun v => max 0 (count v)).getD 0,
          body.any (·.is .continueOnFailure)⟩),
      { c with
        faults := c.faults ++
          if ((starts body).findSome? (resolved? settings body)).isSome then []
          else [⟨head.line, head.column, .stepWithoutAction description⟩]
        cautions := c.cautions ++
          (List.range body.length).flatMap (cautionsAt settings description body) }) ∧
    (∀ i t k, body[i]? = some t → t.keyword = some k → k.isAction = true →
      i ∈ starts body ∧ ∀ j ∈ starts body, j ≤ i → i < stop body j → j = i) ∧
    ∀ i ∈ starts body,
      (span body i).on c = (.ok (spanAt body i, stop body i), c) ∧
      (action settings (spanAt body i)).on c =
        (.ok (resolved? settings body i), c.noting (Action.ofTokens settings (spanAt body i)).2) ∧
      (Action.ofTokens settings (spanAt body i)).2.length =
        if (resolved? settings body i).isSome then 0 else 1 := by
  refine ⟨?_, fun i t k ht hk ha => ?_, fun i hi => ?_⟩
  · have hsettle := on_settle settings ⟨head, description, body, true⟩ index c
    rw [Block.unclosed, if_pos rfl, Cursor.noting_nil] at hsettle
    rw [hsettle, noted, Block.step?, Block.cautions, Block.draft, draft_eq, StepDraft.step?,
      Option.isSome_map]
    rfl
  · have hs := startsRun_of_isAction ht hk ha
    refine ⟨mem_starts.mpr hs, fun j hj hle hstop => ?_⟩
    by_contra hne
    have := inside_of_lt_stop (mem_starts.mp hj) (Nat.lt_of_le_of_ne hle hne) hstop
    simp [(startsRun_iff.mp hs).2] at this
  · obtain ⟨⟨t, ht, -⟩, -⟩ := startsRun_iff.mp (mem_starts.mp hi)
    refine ⟨?_, on_action_span settings ht c, length_cautions_ofTokens ht⟩
    rw [span_on body ht]
    rfl

end Walk

namespace Block

open Runs

variable {settings : Settings} {body : List Token}

structure Settles (settings : Settings) (body : List Token) (s : Step) : Prop where
  action : ∃ head, ∃ args ⊆ body, Action.ofSpan settings head args = .ok s.action
  expected : ∀ e ∈ s.expected, ∃ u ∈ body, u.kind = .string ∧ u.text = e
  timeout : ∀ n ∈ s.timeout, ∃ u ∈ body, Decimal.read? u.text = some n
  retries : s.retries = 0 ∨ 0 ≤ s.retries ∧ ∃ u ∈ body, Decimal.read? u.text = some s.retries

lemma of_resolved? {i : Nat} {a : Action} (h : resolved? settings body i = some a) :
    ∃ head, ∃ args ⊆ body, Action.ofSpan settings head args = .ok a := by
  unfold resolved? at h
  cases ht : body[i]? with
  | none =>
    have hspan : spanAt body i = [] := by
      rw [spanAt, Span.from?, List.drop_eq_nil_of_le (List.getElem?_eq_none_iff.mp ht)]
      rfl
    simp [hspan, Action.ofTokens] at h
  | some t =>
    have hsub : (Span.cut t (body.drop (i + 1))).1 ⊆ body := fun u hu =>
      List.mem_of_mem_drop ((List.takeWhile_sublist _).subset hu)
    refine ⟨t, _, hsub, ?_⟩
    rw [spanAt_eq ht, Action.ofTokens] at h
    cases hspan : Action.ofSpan settings t (Span.cut t (body.drop (i + 1))).1 with
    | ok b => simpa [hspan] using h
    | error e => simp [hspan] at h

lemma of_retries {n : Int}
    (h : ((values .retry .number body).getLast?.map fun v => max 0 (count v)).getD 0 = n) :
    n = 0 ∨ 0 ≤ n ∧ ∃ u ∈ body, Decimal.read? u.text = some n := by
  cases hlast : (values .retry .number body).getLast? with
  | none => exact .inl (by simpa [hlast] using h.symm)
  | some v =>
    obtain rfl : max 0 (count v) = n := by simpa [hlast] using h
    obtain ⟨hmem, -⟩ := of_mem_values (List.mem_of_getLast? hlast)
    rcases Int.le_total (count v) 0 with hle | hle
    · exact .inl (Int.max_eq_left hle)
    · rw [Int.max_eq_right hle]
      cases hread : Decimal.read? v.text with
      | none => exact .inl (by simp [count, hread])
      | some n => exact .inr ⟨hle, v, hmem, by simp [count, hread]⟩

lemma settles_of_step? {b : Block} {id : String} {s : Step} (h : b.step? settings id = some s) :
    Settles settings b.body s := by
  rw [step?, draft, Walk.draft_eq] at h
  obtain ⟨a, ha, rfl⟩ := Option.map_eq_some_iff.mp h
  refine ⟨?_, fun e he => ?_, fun n hn => ?_, of_retries rfl⟩
  · obtain ⟨i, -, hi⟩ := List.exists_of_findSome?_eq_some ha
    exact of_resolved? hi
  · obtain ⟨u, hu, rfl⟩ := Option.map_eq_some_iff.mp he
    obtain ⟨hmem, hk⟩ := of_mem_values (List.mem_of_getLast? hu)
    exact ⟨u, hmem, hk, rfl⟩
  · obtain ⟨u, hu, hn⟩ := Option.bind_eq_some_iff.mp hn
    exact ⟨u, mem_of_mem_timeouts (List.mem_of_getLast? hu), hn⟩

end Block

end ScenarioScript
