import ScenarioScript.Proofs.Entry.Runs
import ScenarioScript.Proofs.Walk.Step

namespace ScenarioScript

namespace Entry

def expected? : Entry → Option (Option String)
  | expect s => some (some s)
  | _ => none

def timeout? : Entry → Option (Option Int)
  | timeout ms => some ms
  | _ => none

def retries? : Entry → Option Int
  | retry _ n => some (max 0 n)
  | _ => none

end Entry

namespace StepDraft

variable {settings : Settings} {description : String}

lemma last_addAll {β : Type} {field : StepDraft → β} {p : Entry → Option β}
    (h : ∀ d e, field (add settings description d e).1 = (p e).getD (field d)) (d : StepDraft)
    (es : List Entry) :
    field (addAll settings description d es).1 = (es.filterMap p).getLast?.getD (field d) := by
  induction es generalizing d with
  | nil => rfl
  | cons e es ih =>
    rw [addAll_cons, ih, h]
    cases hp : p e with
    | none => rw [List.filterMap_cons_none hp, Option.getD_none]
    | some b => rw [List.filterMap_cons_some hp, List.getLast?_cons, Option.getD_some, Option.getD_some]

end StepDraft

namespace Runs

open Arguments

variable {settings : Settings} {description : String} {body : List Token} {t : Token} {i : Nat}
  {k : Keyword} {kind : TokenKind}

def valueAt? (k : Keyword) (kind : TokenKind) (body : List Token) (i : Nat) : Option Token :=
  if (body[i]?).any (·.is k) then ahead? kind (body.drop (i + 1)) else none

def values (k : Keyword) (kind : TokenKind) (body : List Token) : List Token :=
  (List.range body.length).filterMap (valueAt? k kind body)

def freeValues (k : Keyword) (kind : TokenKind) (body : List Token) : List Token :=
  ((List.range body.length).filter (!inside body ·)).filterMap (valueAt? k kind body)

def insideWait (body : List Token) (i : Nat) : Bool :=
  (List.range i).any fun j => startsRun body j && (body[j]?).any (·.is .wait) && i < stop body j

def timeouts (body : List Token) : List Token :=
  ((List.range body.length).filter (!insideWait body ·)).filterMap (valueAt? .timeout .number body)

lemma of_valueAt? {u : Token} (h : valueAt? k kind body i = some u) : u ∈ body ∧ u.kind = kind := by
  unfold valueAt? at h
  split at h
  · exact mem_of_ahead? h
  · simp at h

lemma of_mem_values {u : Token} (h : u ∈ values k kind body) : u ∈ body ∧ u.kind = kind := by
  obtain ⟨i, -, hi⟩ := List.mem_filterMap.mp h
  exact of_valueAt? hi

lemma mem_of_mem_timeouts {u : Token} (h : u ∈ timeouts body) : u ∈ body := by
  obtain ⟨i, -, hi⟩ := List.mem_filterMap.mp h
  exact (of_valueAt? hi).1

lemma flatMap_unless {α β : Type} (is : List Nat) (c : Nat → Bool) (f : Nat → Option α) (g : α → β) :
    is.flatMap (fun i => if c i then [] else ((f i).map g).toList) =
      ((is.filter (!c ·)).filterMap f).map g := by
  induction is with
  | nil => rfl
  | cons i is ih =>
    rw [List.flatMap_cons, ih]
    cases hc : c i with
    | true => simp [hc]
    | false => cases hf : f i <;> simp [hc, hf]

section Extract

variable {β : Type} {p : Entry → Option β} {e : Token → Entry} {g : Token → β}

/-- An extraction sees the entries of one setting only. -/
structure Extracts (p : Entry → Option β) (k : Keyword) (e : Token → Entry) (g : Token → β) : Prop where
  own : ∀ u, p (e u) = some (g u)
  other : ∀ k' kind' e', k' ≠ k → Entry.argument? k' = some (kind', e') → ∀ u, p (e' u) = none
  continues : p .continueOnFailure = none
  run : ∀ head args, p (.run head args) = none

lemma of_argument? (ha : Entry.argument? k = some (kind, e)) :
    (k = .expect ∧ kind = .string ∧ e = fun a => .expect a.text) ∨
    (k = .timeout ∧ kind = .number ∧ e = fun a => .timeout (Decimal.read? a.text)) ∨
    (k = .retry ∧ kind = .number ∧ e = Entry.retryOf) := by
  cases k <;> simp [Entry.argument?] at ha <;> simp [ha]

lemma isStepSetting_of_argument? (ha : Entry.argument? k = some (kind, e)) :
    k.isStepSetting = true := by
  rcases of_argument? ha with ⟨rfl, -⟩ | ⟨rfl, -⟩ | ⟨rfl, -⟩ <;> rfl

lemma ne_continueOnFailure_of_argument? (ha : Entry.argument? k = some (kind, e)) :
    k ≠ .continueOnFailure := by
  rcases of_argument? ha with ⟨rfl, -⟩ | ⟨rfl, -⟩ | ⟨rfl, -⟩ <;> simp

lemma filterMap_readAt (ha : Entry.argument? k = some (kind, e)) (hp : Extracts p k e g) (t : Token)
    (ts : List Token) : (Entry.readAt t ts).1.filterMap p =
      if t.is k then ((ahead? kind ts).map g).toList else [] := by
  cases hopens : t.opensRun with
  | true =>
    have hk := Token.is_eq_false_of_opensRun (isStepSetting_of_argument? ha) hopens
    simp [readAt_run hopens, hp.run, hk]
  | false =>
    rcases readAt_cases hopens ts with ⟨hkind, hread⟩ | ⟨hk, hread⟩ | ⟨k', kind', e', hk, ha', hread⟩
    · simp [hread, Token.is_eq_false_of_kind_ne hkind]
    · have hk : t.is k = false := by
        simp [Token.is, hk, (ne_continueOnFailure_of_argument? ha).symm]
      simp [hread, hp.continues, hk]
    · rw [hread, Walk.ofArgument_eq]
      by_cases hkk : k' = k
      · subst hkk
        obtain ⟨rfl, rfl⟩ : kind = kind' ∧ e = e' := by simpa using ha.symm.trans ha'
        rw [if_pos (by simp [Token.is, hk])]
        cases ahead? kind ts <;> simp [hp.own]
      · have hk : t.is k = false := by simp [Token.is, hk, hkk]
        cases ahead? kind' ts <;> simp [hk, hp.other k' kind' e' hkk ha']

lemma filterMap_entriesAt (ha : Entry.argument? k = some (kind, e)) (hp : Extracts p k e g)
    (body : List Token) (i : Nat) : (entriesAt body i).filterMap p =
      if inside body i then [] else ((valueAt? k kind body i).map g).toList := by
  cases hin : inside body i with
  | true => simp [entriesAt_inside hin]
  | false =>
    cases ht : body[i]? with
    | none => simp [entriesAt_none ht, valueAt?, ht]
    | some t =>
      rw [entriesAt_free hin ht, filterMap_readAt ha hp, valueAt?, ht]
      cases hk : t.is k <;> simp [hk]

lemma filterMap_all (ha : Entry.argument? k = some (kind, e)) (hp : Extracts p k e g)
    (body : List Token) : (Entry.all body).filterMap p = (freeValues k kind body).map g := by
  rw [all_eq_flatMap, List.filterMap_flatMap, freeValues, ← flatMap_unless]
  exact List.flatMap_congr fun i _ => filterMap_entriesAt ha hp body i

end Extract

lemma of_inside (hset : k.isStepSetting = true) (h : inside body i = true)
    (hi : (body[i]?).any (·.is k) = true) : k = .timeout ∧ insideWait body i = true := by
  obtain ⟨j, hj, hs, hstop⟩ := exists_of_inside h
  obtain ⟨head, hhead, -⟩ := (startsRun_iff.mp hs).1
  obtain ⟨t, ht, hk⟩ : ∃ t, body[i]? = some t ∧ t.keyword = some k := by
    simpa [Option.any_eq_true, Token.is] using hi
  have hends := endsAt_eq_false hhead ht hj hstop
  obtain ⟨-, ⟨hwait, htimeout⟩, -⟩ :
      k.isAction = false ∧ (head.is .wait = true ∧ t.is .timeout = true) ∧ t.line = head.line := by
    simpa [Span.endsAt, Span.keeps, hk, hset] using hends
  refine ⟨by simpa [Token.is, hk] using htimeout, ?_⟩
  rw [insideWait, List.any_eq_true]
  exact ⟨j, List.mem_range.mpr hj, by simp [hs, hhead, hwait, hstop]⟩

lemma inside_of_insideWait (h : insideWait body i = true) : inside body i = true := by
  obtain ⟨j, hj, h⟩ := List.any_eq_true.mp h
  rw [Bool.and_eq_true, Bool.and_eq_true] at h
  exact List.any_eq_true.mpr ⟨j, hj, by rw [h.1.1, h.2]; rfl⟩

lemma valueAt?_eq_none (h : (body[i]?).any (·.is k) = false) : valueAt? k kind body i = none := by
  rw [valueAt?, if_neg (by simp [h])]

lemma freeValues_eq (hset : k.isStepSetting = true) (hne : k ≠ .timeout) (body : List Token) :
    freeValues k kind body = values k kind body := by
  rw [freeValues, List.filterMap_filter, values]
  refine List.filterMap_congr fun i _ => ?_
  cases hin : inside body i with
  | false => simp
  | true =>
    have hnot := Bool.eq_false_iff.mpr fun hi => hne (of_inside hset hin hi).1
    simp [valueAt?_eq_none hnot]

lemma freeValues_timeout (body : List Token) : freeValues .timeout .number body = timeouts body := by
  rw [freeValues, List.filterMap_filter, timeouts, List.filterMap_filter]
  refine List.filterMap_congr fun i _ => ?_
  cases hwait : insideWait body i with
  | true => simp [inside_of_insideWait hwait]
  | false =>
    cases hin : inside body i with
    | false => rfl
    | true =>
      have hnot : (body[i]?).any (·.is .timeout) = false := Bool.eq_false_iff.mpr fun hi => by
        simp [(of_inside rfl hin hi).2] at hwait
      simp [valueAt?_eq_none hnot]

def count (v : Token) : Int :=
  (Decimal.read? v.text).getD 0

section Settings

lemma extracts_expected :
    Extracts Entry.expected? .expect (fun a => .expect a.text) (fun a => some a.text) where
  own _ := rfl
  other k' kind' e' hne ha u := by
    rcases of_argument? ha with ⟨rfl, -, rfl⟩ | ⟨rfl, -, rfl⟩ | ⟨rfl, -, rfl⟩ <;>
      first | rfl | exact absurd rfl hne
  continues := rfl
  run _ _ := rfl

lemma extracts_timeout :
    Extracts Entry.timeout? .timeout (fun a => .timeout (Decimal.read? a.text))
      (fun a => Decimal.read? a.text) where
  own _ := rfl
  other k' kind' e' hne ha u := by
    rcases of_argument? ha with ⟨rfl, -, rfl⟩ | ⟨rfl, -, rfl⟩ | ⟨rfl, -, rfl⟩ <;>
      first | rfl | exact absurd rfl hne
  continues := rfl
  run _ _ := rfl

lemma extracts_retries :
    Extracts Entry.retries? .retry Entry.retryOf (fun a => max 0 (count a)) where
  own _ := rfl
  other k' kind' e' hne ha u := by
    rcases of_argument? ha with ⟨rfl, -, rfl⟩ | ⟨rfl, -, rfl⟩ | ⟨rfl, -, rfl⟩ <;>
      first | rfl | exact absurd rfl hne
  continues := rfl
  run _ _ := rfl

variable (settings : Settings) (description : String) (body : List Token)

lemma field_draft {β : Type} {field : StepDraft → β} {p : Entry → Option β} {e : Token → Entry}
    {g : Token → β} (ha : Entry.argument? k = some (kind, e)) (hp : Extracts p k e g)
    (hadd : ∀ d e, field (StepDraft.add settings description d e).1 = (p e).getD (field d)) :
    field (StepDraft.empty.addAll settings description (Entry.all body)).1 =
      ((freeValues k kind body).getLast?.map g).getD (field .empty) := by
  rw [StepDraft.last_addAll hadd, filterMap_all ha hp, List.getLast?_map]

lemma expected_draft : (StepDraft.empty.addAll settings description (Entry.all body)).1.expected =
    (values .expect .string body).getLast?.map (·.text) := by
  have hadd (d : StepDraft) (e : Entry) :
      (StepDraft.add settings description d e).1.expected = e.expected?.getD d.expected := by
    cases e <;> simp only [StepDraft.add] <;> (repeat' split) <;> rfl
  rw [field_draft _ _ _ rfl extracts_expected hadd, freeValues_eq rfl (by simp)]
  cases (values .expect .string body).getLast? <;> rfl

lemma timeout_draft : (StepDraft.empty.addAll settings description (Entry.all body)).1.timeout =
    (timeouts body).getLast?.bind fun v => Decimal.read? v.text := by
  have hadd (d : StepDraft) (e : Entry) :
      (StepDraft.add settings description d e).1.timeout = e.timeout?.getD d.timeout := by
    cases e <;> simp only [StepDraft.add] <;> (repeat' split) <;> rfl
  rw [field_draft _ _ _ rfl extracts_timeout hadd, freeValues_timeout]
  cases (timeouts body).getLast? <;> rfl

lemma retries_draft : (StepDraft.empty.addAll settings description (Entry.all body)).1.retries =
    ((values .retry .number body).getLast?.map fun v => max 0 (count v)).getD 0 := by
  have hadd (d : StepDraft) (e : Entry) :
      (StepDraft.add settings description d e).1.retries = e.retries?.getD d.retries := by
    cases e <;> simp only [StepDraft.add] <;> (repeat' split) <;> simp [Entry.retries?] <;> omega
  rw [field_draft _ _ _ rfl extracts_retries hadd, freeValues_eq rfl (by simp)]
  rfl

lemma continues_addAll (d : StepDraft) (es : List Entry) :
    (StepDraft.addAll settings description d es).1.continueOnFailure =
      (d.continueOnFailure || decide (.continueOnFailure ∈ es)) := by
  induction es generalizing d with
  | nil => simp [StepDraft.addAll]
  | cons e es ih =>
    rw [StepDraft.addAll_cons, ih]
    cases e <;> simp only [StepDraft.add] <;> (repeat' split) <;> simp

lemma continues_mem_readAt (t : Token) (ts : List Token) :
    .continueOnFailure ∈ (Entry.readAt t ts).1 ↔ t.is .continueOnFailure = true := by
  cases hopens : t.opensRun with
  | true =>
    have hk : t.is .continueOnFailure = false := Token.is_eq_false_of_opensRun rfl hopens
    simp [readAt_run hopens, hk]
  | false =>
    rcases readAt_cases hopens ts with ⟨hkind, hread⟩ | ⟨hk, hread⟩ | ⟨k, kind, e, hk, ha, hread⟩
    · simp [hread, Token.is_eq_false_of_kind_ne hkind]
    · simp [hread, Token.is, hk]
    · have hne := ne_continueOnFailure_of_argument? ha
      have he (u : Token) : e u ≠ .continueOnFailure := by
        rcases of_argument? ha with ⟨-, -, rfl⟩ | ⟨-, -, rfl⟩ | ⟨-, -, rfl⟩ <;> simp [Entry.retryOf]
      rw [hread, Walk.ofArgument_eq]
      simp [Token.is, hk, hne, he]

lemma continues_mem_all :
    .continueOnFailure ∈ Entry.all body ↔ body.any (·.is .continueOnFailure) = true := by
  rw [all_eq_flatMap, List.mem_flatMap, List.any_eq_true]
  constructor
  · rintro ⟨i, -, hi⟩
    cases hin : inside body i with
    | true => simp [entriesAt_inside hin] at hi
    | false =>
      cases ht : body[i]? with
      | none => simp [entriesAt_none ht] at hi
      | some t =>
        rw [entriesAt_free hin ht, continues_mem_readAt] at hi
        exact ⟨t, List.mem_of_getElem? ht, hi⟩
  · rintro ⟨t, hmem, hk⟩
    obtain ⟨i, ht⟩ := List.mem_iff_getElem?.mp hmem
    have hin : inside body i = false := Bool.eq_false_iff.mpr fun hin => by
      have := of_inside (k := .continueOnFailure) rfl hin (by simpa [ht] using hk)
      simp at this
    refine ⟨i, List.mem_range.mpr (List.getElem?_eq_some_iff.mp ht).1, ?_⟩
    rw [entriesAt_free hin ht, continues_mem_readAt]
    exact hk

lemma continues_draft :
    (StepDraft.empty.addAll settings description (Entry.all body)).1.continueOnFailure =
      body.any (·.is .continueOnFailure) := by
  rw [continues_addAll, Bool.eq_iff_iff, ← continues_mem_all]
  simp [StepDraft.empty]

end Settings

end Runs

end ScenarioScript
