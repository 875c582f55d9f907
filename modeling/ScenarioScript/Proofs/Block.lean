import Mathlib.Data.List.Basic
import ScenarioScript.Block

namespace ScenarioScript.Block

open scoped List

variable {t : Token} (depth : Nat) (ts : List Token)

lemma inner_open (h : t.kind = .braceOpen) : inner depth (t :: ts) = inner (depth + 1) ts := by
  simp [inner, h]

lemma inner_close_zero (h : t.kind = .braceClose) : inner 0 (t :: ts) = ⟨[], true, ts⟩ := by
  simp [inner, h]

lemma inner_close_succ (h : t.kind = .braceClose) :
    inner (depth + 1) (t :: ts) = inner depth ts := by
  simp [inner, h]

lemma inner_plain (ho : t.kind ≠ .braceOpen) (hc : t.kind ≠ .braceClose) :
    inner depth (t :: ts) = { inner depth ts with tokens := t :: (inner depth ts).tokens } := by
  cases hk : t.kind <;> simp_all [inner]

lemma kind_of_is {k : Keyword} (h : t.is k = true) : t.kind = .keyword := by
  cases hk : t.kind <;> simp_all [Token.is, Token.keyword]

lemma outer_open (h : t.kind = .braceOpen) : outer (t :: ts) = inner 0 ts := by
  have hs : ¬t.is .step = true := fun hs => by simp [kind_of_is hs] at h
  rw [outer, if_neg hs, h]

lemma outer_close (h : t.kind = .braceClose) : outer (t :: ts) = ⟨[], true, ts⟩ := by
  have hs : ¬t.is .step = true := fun hs => by simp [kind_of_is hs] at h
  rw [outer, if_neg hs, h]

lemma outer_plain (hs : t.is .step = false) (ho : t.kind ≠ .braceOpen) (hc : t.kind ≠ .braceClose) :
    outer (t :: ts) = outer ts := by
  rw [outer, if_neg (by simp [hs])]
  cases hk : t.kind <;> simp_all

def Flat (ts : List Token) : Prop :=
  ∀ t ∈ ts, t.kind ≠ .braceOpen ∧ t.kind ≠ .braceClose

lemma inner_flat {body : List Token} (h : Flat body) (hc : t.kind = .braceClose) :
    inner 0 (body ++ t :: ts) = ⟨body, true, ts⟩ := by
  induction body with
  | nil => exact inner_close_zero ts hc
  | cons u body ih =>
    obtain ⟨ho, hc⟩ := h u (by simp)
    rw [List.cons_append, inner_plain 0 _ ho hc, ih fun v hv => h v (by simp [hv])]

lemma sublist_inner : (inner depth ts).tokens ++ (inner depth ts).rest <+ ts := by
  fun_induction inner depth ts with
  | case1 => simp
  | case2 d t ts _ ih => exact ih.cons t
  | case3 t ts _ => exact (List.Sublist.refl ts).cons t
  | case4 t ts d _ ih => exact ih.cons t
  | case5 d t ts _ _ _ ih => exact ih.cons_cons t

lemma sublist_outer : (outer ts).tokens ++ (outer ts).rest <+ ts := by
  fun_induction outer ts with
  | case1 => simp
  | case2 t ts _ => exact List.Sublist.refl _
  | case3 t ts _ _ => exact (sublist_inner 0 ts).cons t
  | case4 t ts _ _ => exact (List.Sublist.refl ts).cons t
  | case5 t ts _ _ _ ih => exact ih.cons t

lemma sublist_read (head : Token) : (read head ts).1.body ++ (read head ts).2 <+ ts := by
  unfold read
  split
  · simp
  · next t rest =>
    split
    · exact (sublist_outer rest).cons t
    · exact sublist_outer (t :: rest)

lemma description_read (head : Token) :
    (read head ts).1.description = "" ∨
      ∃ t ∈ ts.head?, t.kind = .string ∧ (read head ts).1.description = t.text := by
  unfold read
  split
  · exact .inl rfl
  · next t rest =>
    split
    · next hk => exact .inr ⟨t, rfl, hk, rfl⟩
    · exact .inl rfl

end ScenarioScript.Block
