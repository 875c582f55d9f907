import Mathlib.Data.List.Basic
import ScenarioScript.Entry

namespace ScenarioScript

lemma Token.keyword_of_is {t : Token} {k : Keyword} (h : t.is k = true) : t.keyword = some k := by
  simpa [is] using h

lemma Token.kind_of_keyword {t : Token} {k : Keyword} (h : t.keyword = some k) :
    t.kind = .keyword := by
  by_contra hne
  simp [keyword, hne] at h

lemma Token.is_eq_false_of_kind_ne {t : Token} (h : t.kind ≠ .keyword) (k : Keyword) :
    t.is k = false := by
  simp [is, keyword, h]

lemma Span.cut_append {head : Token} {args rest : List Token}
    (hargs : ∀ t ∈ args, endsAt head t = false) (hrest : ∀ t ∈ rest.head?, endsAt head t = true) :
    cut head (args ++ rest) = (args, rest) := by
  have hpass : ∀ t ∈ args, (!endsAt head t) = true := fun t ht => by simp [hargs t ht]
  rw [cut, List.takeWhile_append_of_pos hpass, List.dropWhile_append_of_pos hpass]
  cases rest with
  | nil => simp
  | cons t rest => simp [hrest t rfl]

namespace Entry

def run? : Entry → Option (Token × List Token)
  | run head args => some (head, args)
  | _ => none

lemma all_of_kind_ne {t : Token} (h : t.kind ≠ .keyword) (ts : List Token) : all (t :: ts) = all ts := by
  rw [all_cons, readAt, if_pos h]
  rfl

lemma readAt_run {t : Token} (hkind : t.kind = .keyword)
    (h : ∀ k, t.keyword = some k → k.isStepSetting = false) (ts : List Token) :
    readAt t ts = ([.run t (Span.cut t ts).1], (Span.cut t ts).2) := by
  rw [readAt, if_neg (by simp [hkind])]
  split
  · next hk => simpa [Keyword.isStepSetting] using h _ hk
  · next hk => simpa [Keyword.isStepSetting] using h _ hk
  · next hk => simpa [Keyword.isStepSetting] using h _ hk
  · next hk => simpa [Keyword.isStepSetting] using h _ hk
  · rfl

lemma of_mem_ofArgument {kind : TokenKind} {e : Token → Entry} {ts : List Token} {f : Entry}
    (h : f ∈ ofArgument kind e ts) : ∃ t ∈ ts, t.kind = kind ∧ f = e t := by
  cases ts with
  | nil => simp [ofArgument] at h
  | cons t ts =>
    by_cases hk : t.kind = kind
    · exact ⟨t, List.mem_cons_self, hk, by simpa [ofArgument, hk] using h⟩
    · simp [ofArgument, hk] at h

def argument? : Keyword → Option (TokenKind × (Token → Entry))
  | .expect => some (.string, fun a => .expect a.text)
  | .timeout => some (.number, fun a => .timeout (Decimal.read? a.text))
  | .retry => some (.number, retryOf)
  | _ => none

lemma kind_ne_of_argument? {k : Keyword} {kind : TokenKind} {e : Token → Entry}
    (h : argument? k = some (kind, e)) : kind ≠ .keyword := by
  cases k <;> simp [argument?] at h <;> simp [← h.1]

lemma run?_of_argument? {k : Keyword} {kind : TokenKind} {e : Token → Entry}
    (h : argument? k = some (kind, e)) (t : Token) : (e t).run? = none := by
  cases k <;> simp [argument?] at h <;> obtain ⟨-, rfl⟩ := h <;> rfl

lemma readAt_argument {t : Token} {k : Keyword} {kind : TokenKind} {e : Token → Entry}
    (hk : t.keyword = some k) (h : argument? k = some (kind, e)) (ts : List Token) :
    readAt t ts = (ofArgument kind e ts, ts) := by
  have hkind := Token.kind_of_keyword hk
  cases k <;> simp [argument?] at h <;> obtain ⟨rfl, rfl⟩ := h <;> simp [readAt, hkind, hk]

lemma eq_continueOnFailure {k : Keyword} (hs : k.isStepSetting = true) (ha : argument? k = none) :
    k = .continueOnFailure := by
  cases k with
  | expect | timeout | retry => simp [argument?] at ha
  | continueOnFailure => rfl
  | _ => simp [Keyword.isStepSetting] at hs

section All

variable {t : Token} {k : Keyword} {kind : TokenKind} {e : Token → Entry}

lemma all_argument (hk : t.keyword = some k) (h : argument? k = some (kind, e)) {u : Token}
    (hu : u.kind = kind) (us : List Token) : all (t :: u :: us) = e u :: all us := by
  have hne : u.kind ≠ .keyword := hu ▸ kind_ne_of_argument? h
  rw [all_cons, readAt_argument hk h, ofArgument, if_pos hu, all_of_kind_ne hne]
  rfl

lemma all_missing (hk : t.keyword = some k) (h : argument? k = some (kind, e)) {ts : List Token}
    (hts : ∀ u ∈ ts.head?, u.kind ≠ kind) : all (t :: ts) = all ts := by
  rw [all_cons, readAt_argument hk h]
  cases ts with
  | nil => rfl
  | cons u us => rw [ofArgument, if_neg (hts u rfl), List.nil_append]

lemma all_continues (hk : t.keyword = some .continueOnFailure) (ts : List Token) :
    all (t :: ts) = .continueOnFailure :: all ts := by
  have hkind := Token.kind_of_keyword hk
  simp [all_cons, readAt, hkind, hk]

lemma all_run (hkind : t.kind = .keyword) (h : ∀ k, t.keyword = some k → k.isStepSetting = false)
    (ts : List Token) : all (t :: ts) = .run t (Span.cut t ts).1 :: all (Span.cut t ts).2 := by
  rw [all_cons, readAt_run hkind h]
  rfl

lemma all_induction {motive : List Token → Prop} (nil : motive [])
    (other : ∀ t ts, t.kind ≠ .keyword → motive ts → motive (t :: ts))
    (missing : ∀ t ts k kind e, t.keyword = some k → argument? k = some (kind, e) →
      (∀ u ∈ ts.head?, u.kind ≠ kind) → motive ts → motive (t :: ts))
    (argument : ∀ t u us k kind e, t.keyword = some k → argument? k = some (kind, e) →
      u.kind = kind → motive us → motive (t :: u :: us))
    (continues : ∀ t ts, t.keyword = some .continueOnFailure → motive ts → motive (t :: ts))
    (run : ∀ t ts, t.kind = .keyword → (∀ k, t.keyword = some k → k.isStepSetting = false) →
      motive (Span.cut t ts).2 → motive (t :: ts))
    (ts : List Token) : motive ts := by
  induction hn : ts.length using Nat.strongRecOn generalizing ts with
  | _ n ih =>
    cases ts with
    | nil => exact nil
    | cons t ts =>
      rw [List.length_cons] at hn
      have hts : motive ts := ih ts.length (by omega) ts rfl
      by_cases hkind : t.kind = .keyword
      · by_cases hset : ∃ k, t.keyword = some k ∧ k.isStepSetting = true
        · obtain ⟨k, hk, hs⟩ := hset
          cases ha : argument? k with
          | none =>
            obtain rfl := eq_continueOnFailure hs ha
            exact continues t ts hk hts
          | some a =>
            obtain ⟨kind, e⟩ := a
            cases ts with
            | nil => exact missing t [] k kind e hk ha (by simp) nil
            | cons u us =>
              by_cases hu : u.kind = kind
              · rw [List.length_cons] at hn
                exact argument t u us k kind e hk ha hu (ih us.length (by omega) us rfl)
              · exact missing t _ k kind e hk ha (by simpa using hu) hts
        · have hle := Span.length_cut_le t ts
          refine run t ts hkind (fun k hk => ?_) (ih _ (by omega) _ rfl)
          simpa using fun hs => hset ⟨k, hk, hs⟩
      · exact other t ts hkind hts

end All

lemma eq_run_of_run? {e : Entry} {r : Token × List Token} (h : e.run? = some r) :
    e = .run r.1 r.2 := by
  cases e <;> simp [run?] at h
  rw [← h]

end Entry

lemma Action.isAction_of_ofArguments? {settings : Settings} {args : List Token} {k : Keyword}
    {a : Option Action} (h : ofArguments? settings args k = some a) : k.isAction = true := by
  cases k <;> first | rfl | simp [ofArguments?] at h

lemma Action.isAction_of_ofSpan {settings : Settings} {head : Token} {args : List Token} {a : Action}
    (h : ofSpan settings head args = .ok a) : ∃ k, head.keyword = some k ∧ k.isAction = true := by
  obtain ⟨k, hk, ha⟩ := ofSpan_eq_ok_iff.mp h
  exact ⟨k, hk, isAction_of_ofArguments? ha⟩

namespace StepDraft

variable {settings : Settings} {description : String}

lemma addAll_cons (d : StepDraft) (e : Entry) (es : List Entry) :
    addAll settings description d (e :: es) =
      ((addAll settings description (add settings description d e).1 es).1,
        (add settings description d e).2 ++
          (addAll settings description (add settings description d e).1 es).2) :=
  rfl

lemma addAll_append (d : StepDraft) (es fs : List Entry) :
    addAll settings description d (es ++ fs) =
      ((addAll settings description (addAll settings description d es).1 fs).1,
        (addAll settings description d es).2 ++
          (addAll settings description (addAll settings description d es).1 fs).2) := by
  induction es generalizing d with
  | nil => rfl
  | cons e es ih => simp only [List.cons_append, addAll_cons, ih, List.append_assoc]

lemma action_add_setting {e : Entry} (he : e.run? = none) (d : StepDraft) :
    (add settings description d e).1.action = d.action := by
  cases e with
  | run head args => simp [Entry.run?] at he
  | retry line count =>
    simp only [add]
    split <;> rfl
  | expect _ | timeout _ | continueOnFailure => rfl

lemma action_addAll {d : StepDraft} {a : Action} (ha : d.action = some a) (es : List Entry) :
    (addAll settings description d es).1.action = some a := by
  induction es generalizing d with
  | nil => exact ha
  | cons e es ih =>
    rw [addAll_cons]
    refine ih ?_
    cases he : e.run? with
    | none => rw [action_add_setting he, ha]
    | some r =>
      obtain rfl := Entry.eq_run_of_run? he
      simp [add, ha]

lemma runs_eq_nil {d : StepDraft} {es : List Entry} (ha : d.action.isSome = true)
    (hc : (addAll settings description d es).2 = []) : es.filterMap Entry.run? = [] := by
  induction es generalizing d with
  | nil => rfl
  | cons e es ih =>
    rw [addAll_cons] at hc
    obtain ⟨he, hes⟩ := List.append_eq_nil_iff.mp hc
    cases hr : e.run? with
    | none =>
      rw [List.filterMap_cons_none hr]
      exact ih (by rw [action_add_setting hr, ha]) hes
    | some r =>
      obtain rfl := Entry.eq_run_of_run? hr
      simp [add, ha] at he

lemma runs_eq_singleton {d : StepDraft} {es : List Entry} {a : Action} (hn : d.action = none)
    (hc : (addAll settings description d es).2 = [])
    (ha : (addAll settings description d es).1.action = some a) :
    ∃ head args, es.filterMap Entry.run? = [(head, args)] ∧
      Action.ofSpan settings head args = .ok a := by
  induction es generalizing d with
  | nil => simp [addAll, hn] at ha
  | cons e es ih =>
    rw [addAll_cons] at hc
    obtain ⟨he, hes⟩ := List.append_eq_nil_iff.mp hc
    cases hr : e.run? with
    | none =>
      rw [List.filterMap_cons_none hr]
      exact ih (by rw [action_add_setting hr, hn]) hes ha
    | some r =>
      obtain ⟨head, args⟩ := r
      obtain rfl := Entry.eq_run_of_run? hr
      cases hs : Action.ofSpan settings head args with
      | error c => simp [add, hn, hs] at he
      | ok b =>
        have hadd : add settings description d (.run head args) = ({ d with action := some b }, []) := by
          simp [add, hn, hs]
        rw [hadd] at hes
        rw [addAll_cons, hadd] at ha
        rw [action_addAll rfl es, Option.some.injEq] at ha
        refine ⟨head, args, ?_, ha ▸ hs⟩
        rw [List.filterMap_cons_some hr, runs_eq_nil rfl hes]

end StepDraft

end ScenarioScript
