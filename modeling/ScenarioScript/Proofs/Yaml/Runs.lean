import Mathlib.Data.List.Basic
import Mathlib.Data.List.TakeWhile
import Mathlib.Data.Nat.Notation
import ScenarioScript.Yaml.Scalar

namespace ScenarioScript.Yaml.Scalar

-- Ahead of the instances that run through all characters there are.
instance (priority := high) decidableForallMem (p : Char → Prop) [DecidablePred p] (cs : List Char) :
    Decidable (∀ c ∈ cs, p c) :=
  List.decidableBAll p cs

instance (priority := high) decidableExistsMem (p : Char → Prop) [DecidablePred p] (cs : List Char) :
    Decidable (∃ c ∈ cs, p c) :=
  List.decidableBEx p cs

def isSolid (c : Char) : Bool :=
  c ≠ ' ' && !isBreak c

lemma isSolid_iff {c : Char} : isSolid c = true ↔ c ≠ ' ' ∧ isBreak c = false := by
  simp [isSolid]

lemma isBreak_space : isBreak ' ' = false := rfl

def Past (p : Char → Bool) (cs : List Char) : Prop :=
  ∀ c ∈ cs.head?, p c = false

lemma past_dropWhile (p : Char → Bool) (cs : List Char) : Past p (cs.dropWhile p) := by
  intro c hc
  have hnot := List.head?_dropWhile_not p cs
  rw [Option.mem_def.mp hc] at hnot
  simpa using hnot

def Run.holds (c : Char) : Run → Bool
  | word _ => isSolid c
  | spaces _ => isSpace c
  | breaks _ => isBreak c

lemma runs_cons (c : Char) (cs : List Char) :
    ∃ r rs, runs (c :: cs) = r :: rs ∧ r.holds c = true := by
  by_cases hs : c = ' '
  · subst hs
    rw [runs, if_pos rfl]
    cases runs cs with
    | nil => exact ⟨_, _, rfl, rfl⟩
    | cons r rs => cases r <;> exact ⟨_, _, rfl, rfl⟩
  · by_cases hb : isBreak c = true
    · rw [runs, if_neg hs, if_pos hb]
      cases runs cs with
      | nil => exact ⟨_, _, rfl, hb⟩
      | cons r rs => cases r <;> exact ⟨_, _, rfl, hb⟩
    · have hsolid : isSolid c = true := isSolid_iff.mpr ⟨hs, by simpa using hb⟩
      rw [runs, if_neg hs, if_neg hb]
      cases runs cs with
      | nil => exact ⟨_, _, rfl, hsolid⟩
      | cons r rs => cases r <;> exact ⟨_, _, rfl, hsolid⟩

section Runs

variable {w rest : List Char}

lemma runs_word (hne : w ≠ []) (hw : ∀ c ∈ w, isSolid c = true) (hrest : Past isSolid rest) :
    runs (w ++ rest) = .word w :: runs rest := by
  induction w with
  | nil => exact absurd rfl hne
  | cons c w ih =>
    obtain ⟨hspace, hbreak⟩ := isSolid_iff.mp (hw c (by simp))
    have hruns : runs (c :: w ++ rest) = addToWord c (runs (w ++ rest)) := by
      simp [runs, hspace, hbreak]
    cases w with
    | nil =>
      rw [hruns, List.nil_append]
      cases rest with
      | nil => rfl
      | cons b rest =>
        obtain ⟨r, rs, hr, hb⟩ := runs_cons b rest
        rw [hr]
        cases r with
        | word cs => exact absurd hb (by simpa [Run.holds] using hrest b rfl)
        | spaces n => rfl
        | breaks cs => rfl
    | cons d w =>
      rw [hruns, ih (by simp) fun e he => hw e (by simp_all)]
      rfl

lemma runs_spaces {n : ℕ} (hn : 0 < n) (hrest : Past isSpace rest) :
    runs (spaces n ++ rest) = .spaces n :: runs rest := by
  induction n with
  | zero => omega
  | succ n ih =>
    have hruns : runs (spaces (n + 1) ++ rest) = addSpace (runs (spaces n ++ rest)) := by
      simp [spaces, List.replicate_succ, runs]
    cases n with
    | zero =>
      rw [hruns, spaces, List.replicate_zero, List.nil_append]
      cases rest with
      | nil => rfl
      | cons b rest =>
        obtain ⟨r, rs, hr, hb⟩ := runs_cons b rest
        rw [hr]
        cases r with
        | word cs => rfl
        | spaces n => exact absurd hb (by simpa [Run.holds] using hrest b rfl)
        | breaks cs => rfl
    | succ n =>
      rw [hruns, ih (by omega)]
      rfl

lemma runs_breaks (hne : w ≠ []) (hw : ∀ c ∈ w, isBreak c = true) (hrest : Past isBreak rest) :
    runs (w ++ rest) = .breaks w :: runs rest := by
  induction w with
  | nil => exact absurd rfl hne
  | cons c w ih =>
    have hbreak := hw c (by simp)
    have hspace : c ≠ ' ' := by
      rintro rfl
      simp [isBreak_space] at hbreak
    have hruns : runs (c :: w ++ rest) = addBreak c (runs (w ++ rest)) := by
      simp [runs, hspace, hbreak]
    cases w with
    | nil =>
      rw [hruns, List.nil_append]
      cases rest with
      | nil => rfl
      | cons b rest =>
        obtain ⟨r, rs, hr, hb⟩ := runs_cons b rest
        rw [hr]
        cases r with
        | word cs => rfl
        | spaces n => rfl
        | breaks cs => exact absurd hb (by simpa [Run.holds] using hrest b rfl)
    | cons d w =>
      rw [hruns, ih (by simp) fun e he => hw e (by simp_all)]
      rfl

end Runs

lemma exists_front {p : Char → Bool} {c : Char} (hc : p c = true) (cs : List Char) :
    ∃ w rest, c :: cs = w ++ rest ∧ w ≠ [] ∧ (∀ d ∈ w, p d = true) ∧ Past p rest ∧
      rest.length < (c :: cs).length := by
  refine ⟨c :: cs.takeWhile p, cs.dropWhile p, ?_, by simp, ?_, past_dropWhile p cs, ?_⟩
  · rw [List.cons_append, List.takeWhile_append_dropWhile]
  · exact List.forall_mem_cons.mpr ⟨hc, fun d hd => List.mem_takeWhile_imp hd⟩
  · exact Nat.lt_succ_of_le (List.dropWhile_sublist p).length_le

lemma eq_spaces {w : List Char} (h : ∀ c ∈ w, isSpace c = true) : w = spaces w.length :=
  List.eq_replicate_of_mem fun c hc => by simpa [isSpace] using h c hc

lemma runs_induction {motive : List Char → Prop} (nil : motive [])
    (word : ∀ w rest, w ≠ [] → (∀ c ∈ w, isSolid c = true) → Past isSolid rest → motive rest →
      motive (w ++ rest))
    (space : ∀ n rest, 0 < n → Past isSpace rest → motive rest → motive (spaces n ++ rest))
    (break_ : ∀ w rest, w ≠ [] → (∀ c ∈ w, isBreak c = true) → Past isBreak rest → motive rest →
      motive (w ++ rest))
    (cs : List Char) : motive cs := by
  induction hn : cs.length using Nat.strongRecOn generalizing cs with
  | _ n ih =>
    cases cs with
    | nil => exact nil
    | cons c cs =>
      by_cases hs : isSpace c = true
      · obtain ⟨w, rest, he, hne, hw, hrest, hlt⟩ := exists_front hs cs
        rw [he, eq_spaces hw]
        exact space _ rest (List.length_pos_iff.mpr hne) hrest (ih _ (hn ▸ hlt) rest rfl)
      · by_cases hb : isBreak c = true
        · obtain ⟨w, rest, he, hne, hw, hrest, hlt⟩ := exists_front hb cs
          rw [he]
          exact break_ w rest hne hw hrest (ih _ (hn ▸ hlt) rest rfl)
        · have hsolid : isSolid c = true :=
            isSolid_iff.mpr ⟨by simpa [isSpace] using hs, by simpa using hb⟩
          obtain ⟨w, rest, he, hne, hw, hrest, hlt⟩ := exists_front hsolid cs
          rw [he]
          exact word w rest hne hw hrest (ih _ (hn ▸ hlt) rest rfl)

section Pairs

variable {p q : Char → Bool} {w rest : List Char}

lemma hasPair_of_append (h : hasPair p q (w ++ rest) = false) : hasPair p q rest = false := by
  induction w with
  | nil => exact h
  | cons c w ih =>
    apply ih
    rw [List.cons_append] at h
    cases hw : w ++ rest with
    | nil => rfl
    | cons d cs =>
      rw [hw, hasPair, Bool.or_eq_false_iff] at h
      exact h.2

lemma past_of_hasPair (hne : w ≠ []) (hw : ∀ c ∈ w, p c = true)
    (h : hasPair p q (w ++ rest) = false) : Past q rest := by
  induction w with
  | nil => exact absurd rfl hne
  | cons c w ih =>
    cases w with
    | nil =>
      intro d hd
      obtain ⟨rest, rfl⟩ : ∃ r, rest = d :: r := by
        cases rest with
        | nil => simp at hd
        | cons e r => exact ⟨r, by simpa using hd⟩
      simpa [hasPair, hw c (by simp)] using (Bool.or_eq_false_iff.mp h).1
    | cons d w =>
      exact ih (by simp) (fun e he => hw e (by simp_all)) (Bool.or_eq_false_iff.mp h).2

end Pairs

end ScenarioScript.Yaml.Scalar
