import Mathlib.Data.List.TakeWhile
import ScenarioScript.Proofs.Entry

/-! The runs of a body by the positions where they start, and with them the entries that are read at
each position. -/

namespace ScenarioScript

def Token.opensRun (t : Token) : Bool :=
  t.kind = .keyword && !t.keyword.any Keyword.isStepSetting

lemma Token.opensRun_iff {t : Token} : t.opensRun = true ↔
    t.kind = .keyword ∧ ∀ k, t.keyword = some k → k.isStepSetting = false := by
  cases hk : t.keyword <;> simp [opensRun, hk]

lemma Token.is_eq_false_of_opensRun {t : Token} {k : Keyword} (hset : k.isStepSetting = true)
    (h : t.opensRun = true) : t.is k = false := by
  refine Bool.eq_false_iff.mpr fun hk => ?_
  have := (opensRun_iff.mp h).2 k (keyword_of_is hk)
  simp [hset] at this

namespace Runs

variable {body : List Token} {head t : Token} {i j : Nat}

def spanAt (body : List Token) (i : Nat) : List Token :=
  (Span.from? body i).getD []

def stop (body : List Token) (i : Nat) : Nat :=
  i + (spanAt body i).length

/-- A run starts at a position if its token opens one and no earlier run has it in its span. -/
def startsRun (body : List Token) (i : Nat) : Bool :=
  (body[i]?).any Token.opensRun &&
    (List.range i).attach.all fun j => !startsRun body j || stop body j ≤ i
termination_by i
decreasing_by exact List.mem_range.mp j.2

def starts (body : List Token) : List Nat :=
  (List.range body.length).filter (startsRun body)

def inside (body : List Token) (i : Nat) : Bool :=
  (List.range i).any fun j => startsRun body j && i < stop body j

lemma inside_eq_false_iff :
    inside body i = false ↔ ∀ j < i, startsRun body j = true → stop body j ≤ i := by
  simp [inside]

lemma startsRun_iff : startsRun body i = true ↔
    (∃ t, body[i]? = some t ∧ t.opensRun = true) ∧ inside body i = false := by
  rw [startsRun, inside_eq_false_iff, Bool.and_eq_true, Option.any_eq_true]
  simp [imp_iff_not_or]

lemma drop_eq_cons (h : body[i]? = some t) : body.drop i = t :: body.drop (i + 1) := by
  obtain ⟨hi, rfl⟩ := List.getElem?_eq_some_iff.mp h
  exact List.drop_eq_getElem_cons hi

lemma spanAt_eq (h : body[i]? = some t) :
    spanAt body i = t :: (Span.cut t (body.drop (i + 1))).1 := by
  rw [spanAt, Span.from?, drop_eq_cons h]
  rfl

lemma stop_eq (h : body[i]? = some t) :
    stop body i = i + 1 + (Span.cut t (body.drop (i + 1))).1.length := by
  rw [stop, spanAt_eq h, List.length_cons]
  omega

lemma lt_stop (h : body[i]? = some t) : i < stop body i := by
  rw [stop_eq h]
  omega

lemma drop_eq_cut (body : List Token) (t : Token) (i : Nat) :
    body.drop i = (Span.cut t (body.drop i)).1 ++ (Span.cut t (body.drop i)).2 :=
  List.takeWhile_append_dropWhile.symm

lemma drop_stop (h : body[i]? = some t) :
    body.drop (stop body i) = (Span.cut t (body.drop (i + 1))).2 := by
  rw [stop_eq h, ← List.drop_drop]
  nth_rewrite 2 [drop_eq_cut body t (i + 1)]
  exact List.drop_left

lemma stop_le_length (h : body[i]? = some t) : stop body i ≤ body.length := by
  have hlength := congrArg List.length (drop_eq_cut body t (i + 1))
  have hi := (List.getElem?_eq_some_iff.mp h).1
  rw [List.length_append, List.length_drop] at hlength
  rw [stop_eq h]
  omega

lemma endsAt_eq_false (hj : body[j]? = some head) (hi : body[i]? = some t) (hlt : j < i)
    (hstop : i < stop body j) : Span.endsAt head t = false := by
  obtain ⟨n, rfl⟩ := Nat.exists_eq_add_of_le (Nat.succ_le_of_lt hlt)
  rw [stop_eq hj] at hstop
  have hn : n < (Span.cut head (body.drop (j + 1))).1.length := by omega
  rw [← List.getElem?_drop, drop_eq_cut body head, List.getElem?_append_left hn] at hi
  simpa using List.mem_takeWhile_imp (List.mem_of_getElem? hi)

lemma startsRun_eq_false (h : body[i]? = some t) (ht : t.opensRun = false) :
    startsRun body i = false := by
  refine Bool.eq_false_iff.mpr fun hs => ?_
  obtain ⟨⟨u, hu, hopens⟩, -⟩ := startsRun_iff.mp hs
  obtain rfl := Option.some.inj (h.symm.trans hu)
  simp [ht] at hopens

lemma inside_succ (hs : startsRun body i = false) (h : inside body i = false) :
    inside body (i + 1) = false := by
  rw [inside_eq_false_iff] at h ⊢
  intro j hj hsj
  rcases Nat.lt_succ_iff_lt_or_eq.mp hj with hlt | rfl
  · exact Nat.le_succ_of_le (h j hlt hsj)
  · simp [hs] at hsj

lemma inside_stop (hs : startsRun body i = true) : inside body (stop body i) = false := by
  obtain ⟨⟨t, ht, -⟩, hfree⟩ := startsRun_iff.mp hs
  have hlt := lt_stop ht
  rw [inside_eq_false_iff] at hfree ⊢
  intro j _ hsj
  rcases Nat.lt_trichotomy j i with hj | rfl | hj
  · exact (hfree j hj hsj).trans hlt.le
  · exact le_rfl
  · have hstop := inside_eq_false_iff.mp (startsRun_iff.mp hsj).2 i hj hs
    omega

lemma inside_of_lt_stop (hs : startsRun body i = true) (hlt : i < j) (hstop : j < stop body i) :
    inside body j = true := by
  rw [← Bool.not_eq_false, inside_eq_false_iff]
  intro h
  have := h i hlt hs
  omega

lemma exists_of_inside (h : inside body i = true) :
    ∃ j < i, startsRun body j = true ∧ i < stop body j := by
  simpa [inside] using h

lemma readAt_run (h : t.opensRun = true) (ts : List Token) :
    Entry.readAt t ts = ([.run t (Span.cut t ts).1], (Span.cut t ts).2) :=
  Entry.readAt_run (Token.opensRun_iff.mp h).1 (Token.opensRun_iff.mp h).2 ts

lemma readAt_cases (h : t.opensRun = false) (ts : List Token) :
    (t.kind ≠ .keyword ∧ Entry.readAt t ts = ([], ts)) ∨
    (t.keyword = some .continueOnFailure ∧ Entry.readAt t ts = ([.continueOnFailure], ts)) ∨
    ∃ k kind e, t.keyword = some k ∧ Entry.argument? k = some (kind, e) ∧
      Entry.readAt t ts = (Entry.ofArgument kind e ts, ts) := by
  by_cases hkind : t.kind = .keyword
  · obtain ⟨k, hk, hset⟩ : ∃ k, t.keyword = some k ∧ k.isStepSetting = true := by
      simpa [Token.opensRun, hkind, Option.any_eq_true] using h
    cases ha : Entry.argument? k with
    | none =>
      obtain rfl := Entry.eq_continueOnFailure hset ha
      exact .inr (.inl ⟨hk, by simp [Entry.readAt, hkind, hk]⟩)
    | some a => exact .inr (.inr ⟨k, a.1, a.2, hk, ha, Entry.readAt_argument hk ha ts⟩)
  · exact .inl ⟨hkind, by rw [Entry.readAt, if_pos hkind]⟩

lemma readAt_rest (h : t.opensRun = false) (ts : List Token) : (Entry.readAt t ts).2 = ts := by
  rcases readAt_cases h ts with ⟨-, hread⟩ | ⟨-, hread⟩ | ⟨k, kind, e, -, -, hread⟩ <;> rw [hread]

def entriesAt (body : List Token) (i : Nat) : List Entry :=
  if inside body i then []
  else match body.drop i with
    | [] => []
    | t :: ts => (Entry.readAt t ts).1

lemma entriesAt_inside (h : inside body i = true) : entriesAt body i = [] := by
  rw [entriesAt, if_pos h]

lemma entriesAt_none (h : body[i]? = none) : entriesAt body i = [] := by
  rw [entriesAt, List.drop_eq_nil_of_le (List.getElem?_eq_none_iff.mp h), ite_self]

lemma entriesAt_free (h : inside body i = false) (ht : body[i]? = some t) :
    entriesAt body i = (Entry.readAt t (body.drop (i + 1))).1 := by
  rw [entriesAt, if_neg (by simp [h]), drop_eq_cons ht]

lemma all_drop (body : List Token) {i : Nat} (h : inside body i = false) :
    Entry.all (body.drop i) = (List.range' i (body.length - i)).flatMap (entriesAt body) := by
  induction hn : body.length - i using Nat.strongRecOn generalizing i with
  | _ n ih =>
    cases ht : body[i]? with
    | none =>
      have hi := List.getElem?_eq_none_iff.mp ht
      obtain rfl : n = 0 := by omega
      rw [List.drop_eq_nil_of_le hi, Entry.all_nil]
      rfl
    | some t =>
      have hi := (List.getElem?_eq_some_iff.mp ht).1
      obtain ⟨m, rfl⟩ : ∃ m, n = m + 1 := ⟨n - 1, by omega⟩
      rw [drop_eq_cons ht, Entry.all_cons, List.range'_succ, List.flatMap_cons, entriesAt_free h ht]
      congr 1
      cases hopens : t.opensRun with
      | false =>
        have hs := startsRun_eq_false ht hopens
        rw [readAt_rest hopens, ih m (by omega) (inside_succ hs h) (by omega)]
      | true =>
        have hs : startsRun body i = true := startsRun_iff.mpr ⟨⟨t, ht, hopens⟩, h⟩
        have hlt := lt_stop ht
        have hle := stop_le_length ht
        obtain ⟨k, hk⟩ := Nat.exists_eq_add_of_le (Nat.succ_le_of_lt hlt)
        obtain rfl : m = k + (body.length - stop body i) := by omega
        have hinside : (List.range' (i + 1) k).flatMap (entriesAt body) = [] := by
          refine List.flatMap_eq_nil_iff.mpr fun j hj => entriesAt_inside ?_
          have := List.mem_range'_1.mp hj
          exact inside_of_lt_stop hs (by omega) (by omega)
        rw [readAt_run hopens, ← drop_stop ht, ih _ (by omega) (inside_stop hs) rfl,
          ← List.range'_append_1, List.flatMap_append, hinside, List.nil_append, ← hk]

theorem all_eq_flatMap (body : List Token) :
    Entry.all body = (List.range body.length).flatMap (entriesAt body) := by
  have h := all_drop body (i := 0) (by simp [inside])
  rwa [List.drop_zero, Nat.sub_zero, ← List.range_eq_range'] at h

end Runs

end ScenarioScript
