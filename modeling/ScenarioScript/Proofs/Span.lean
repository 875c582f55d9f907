import ScenarioScript.Proofs.Walk.Settled

/-! Spans cut from a list of tokens: where each one stops, and that nothing is lost or taken twice
when a list is cut from end to end. -/

namespace ScenarioScript

namespace Span

variable {ts : List Token} {head t : Token}

/-- A token that ends the span of a head: it heads an action itself, or it is a setting of the step
other than the timeout that a wait has on its own line. -/
def Ends (head t : Token) : Prop :=
  ∃ k, t.keyword = some k ∧ (k.isAction = true ∨ k.isStepSetting = true ∧
    ¬(head.keyword = some .wait ∧ k = .timeout ∧ t.line = head.line))

lemma endsAt_iff : endsAt head t = true ↔ Ends head t := by
  cases hk : t.keyword with
  | none => simp [endsAt, Ends, hk]
  | some k =>
    simp only [endsAt, Ends, keeps, Token.is, hk, Option.some.injEq, exists_eq_left',
      Bool.or_eq_true, Bool.and_eq_true, Bool.not_eq_true', Bool.and_eq_false_iff,
      decide_eq_false_iff_not]
    tauto

structure Stops (ts : List Token) (start : Fin ts.length) (stop : ℕ) : Prop where
  lt : start < stop
  le : stop ≤ ts.length
  within : ∀ i (h : i < ts.length), start < i → i < stop → ¬Ends ts[start] ts[i]
  maximal : ∀ h : stop < ts.length, Ends ts[start] ts[stop]

lemma Stops.unique {start : Fin ts.length} {m n : ℕ} (hm : Stops ts start m)
    (hn : Stops ts start n) : m = n := by
  rcases Nat.lt_trichotomy m n with hlt | heq | hlt
  · have hle := hlt.trans_le hn.le
    exact absurd (hm.maximal hle) (hn.within m hle hm.lt hlt)
  · exact heq
  · have hle := hlt.trans_le hm.le
    exact absurd (hn.maximal hle) (hm.within n hle hn.lt hlt)

lemma stops_stop (start : Fin ts.length) : Stops ts start (Runs.stop ts start) := by
  have hhead : ts[(start : ℕ)]? = some ts[start] := List.getElem?_eq_getElem start.2
  refine ⟨Runs.lt_stop hhead, Runs.stop_le_length hhead, fun i h hlt hstop => ?_, fun h => ?_⟩
  · rw [← endsAt_iff, Bool.not_eq_true]
    exact Runs.endsAt_eq_false hhead (List.getElem?_eq_getElem h) hlt hstop
  · have hrest : (ts.drop (start + 1)).dropWhile (!endsAt ts[start] ·) =
        ts[Runs.stop ts start] :: ts.drop (Runs.stop ts start + 1) :=
      (Runs.drop_stop hhead).symm.trans (List.drop_eq_getElem_cons h)
    have hends := List.head?_dropWhile_not (!endsAt ts[start] ·) (ts.drop (start + 1))
    rw [hrest, List.head?_cons] at hends
    exact endsAt_iff.mp (by simpa using hends)

lemma spanAt_eq_extract (ts : List Token) (start : ℕ) :
    Runs.spanAt ts start = ts.extract start (Runs.stop ts start) := by
  have hprefix : Runs.spanAt ts start <+: ts.drop start := by
    rw [Runs.spanAt, from?]
    split
    · exact List.nil_prefix
    · next t rest h =>
      rw [h]
      exact (List.prefix_cons_inj t).mpr (List.takeWhile_prefix _)
  rw [List.extract_eq_take_drop, Runs.stop, Nat.add_sub_cancel_left]
  exact List.prefix_iff_eq_take.mp hprefix

lemma all_nil : all [] = [] := by
  rw [all.eq_def]

lemma all_cons (t : Token) (ts : List Token) :
    all (t :: ts) = (t :: (cut t ts).1) :: all (cut t ts).2 := by
  rw [all.eq_def]

lemma cons_eq_cut (t : Token) (ts : List Token) : t :: ts = (t :: (cut t ts).1) ++ (cut t ts).2 :=
  congrArg (t :: ·) List.takeWhile_append_dropWhile.symm

lemma flatten_all (ts : List Token) : (all ts).flatten = ts := by
  fun_induction all ts with
  | case1 => rfl
  | case2 t ts ih => rw [List.flatten_cons, ih, ← cons_eq_cut]

lemma of_all_eq_append {before after : List (List Token)} {s : List Token}
    (h : all ts = before ++ s :: after) :
    ∃ head rest, ts = before.flatten ++ head :: rest ∧ s = head :: (cut head rest).1 := by
  -- On the spans in front: what they leave is where the span that is looked for is cut.
  induction before generalizing ts with
  | nil =>
    cases ts with
    | nil => simp [all_nil] at h
    | cons t ts =>
      rw [all_cons, List.nil_append, List.cons.injEq] at h
      exact ⟨t, ts, rfl, h.1.symm⟩
  | cons b before ih =>
    cases ts with
    | nil => simp [all_nil] at h
    | cons t ts =>
      rw [all_cons, List.cons_append, List.cons.injEq] at h
      obtain ⟨head, rest, hrest, rfl⟩ := ih h.2
      refine ⟨head, rest, ?_, rfl⟩
      rw [List.flatten_cons, List.append_assoc, ← hrest, ← h.1, ← cons_eq_cut]

end Span

namespace Walk

def spansTurn (ts : List Token) (found : List (List Token) × Nat) :
    Walk (Turn (List (List Token) × Nat) (List (List Token))) := do
  let (spans, i) := found
  if i < ts.length then
    let (s, stop) ← span ts i
    return .again (spans ++ [s], stop)
  else return .done spans

def spans (ts : List Token) : Walk (List (List Token)) :=
  along ts (spansTurn ts) [] 0

lemma spansTurns_append (pre ts : List Token) (found : List (List Token)) :
    along (pre ++ ts) (spansTurn (pre ++ ts)) found pre.length = pure (found ++ Span.all ts) := by
  fun_induction Span.all ts generalizing pre found with
  | case1 => exact along_done (by simp [spansTurn])
  | case2 t ts ih =>
    have hturn := ih (pre ++ t :: (Span.cut t ts).1) (found ++ [t :: (Span.cut t ts).1])
    rw [Span.cons_eq_cut]
    refine along_past (t :: (Span.cut t ts).1) (by simp) ?_ (hturn.trans (by simp))
    rw [← Span.cons_eq_cut]
    simp [spansTurn, span_append]

lemma spans_eq (ts : List Token) : spans ts = pure (Span.all ts) :=
  spansTurns_append [] ts []

/-- A span reaches from its head to the one position where it may stop. A list that is cut from end
to end comes to its end, and its spans one behind the other are the list. -/
theorem spans_cover (ts : List Token) (c : Cursor) :
    (∀ start : Fin ts.length, ∃ stop,
      (span ts start).on c = (.ok (ts.extract start stop, stop), c) ∧
      ∀ n, Span.Stops ts start n ↔ n = stop) ∧
    (spans ts).on c = (.ok (Span.all ts), c) ∧
    (Span.all ts).flatten = ts ∧
    ∀ before s after, Span.all ts = before ++ s :: after →
      (span ts before.flatten.length).on c =
        (.ok (s, before.flatten.length + s.length), c) := by
  refine ⟨fun start => ⟨Runs.stop ts start, ?_, fun n => ⟨fun h => ?_, ?_⟩⟩, ?_,
    Span.flatten_all ts, fun before s after h => ?_⟩
  · rw [span_on ts (List.getElem?_eq_getElem start.2), Span.spanAt_eq_extract]
    rfl
  · exact h.unique (Span.stops_stop start)
  · rintro rfl
    exact Span.stops_stop start
  · rw [spans_eq]
    rfl
  · obtain ⟨head, rest, hts, rfl⟩ := Span.of_all_eq_append h
    conv => lhs; rw [hts]
    rw [span_append]
    rfl

end Walk

end ScenarioScript
