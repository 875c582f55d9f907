import Mathlib.Algebra.Ring.Parity
import Mathlib.Data.List.DropRight
import ScenarioScript.Proofs.Lexeme.Reach

namespace ScenarioScript.Lexeme

variable {cs : List Char} {c : Char}

def Escapes (cs : List Char) : Prop :=
  Odd (cs.rtakeWhile (· = '\\')).length

def IsQuoted (cs : List Char) : Prop :=
  ∃ inside, cs = '"' :: (inside ++ ['"']) ∧ ¬Escapes inside

def decoded : List Char → List Char
  | '\\' :: 'n' :: cs => '\n' :: decoded cs
  | '\\' :: 't' :: cs => '\t' :: decoded cs
  | '\\' :: c :: cs => c :: decoded cs
  | c :: cs => c :: decoded cs
  | [] => []

lemma not_escapes_nil : ¬Escapes [] := by
  rw [Escapes, List.rtakeWhile_nil]
  exact Nat.not_odd_zero

lemma escapes_concat (cs : List Char) (c : Char) : Escapes (cs ++ [c]) ↔ c = '\\' ∧ ¬Escapes cs := by
  rw [Escapes, Escapes, List.rtakeWhile_concat]
  by_cases hc : c = '\\'
  · rw [if_pos (by simpa using hc), List.length_append, List.length_singleton, Nat.odd_add_one]
    exact (and_iff_right hc).symm
  · rw [if_neg (by simpa using hc)]
    exact iff_of_false Nat.not_odd_zero fun h => hc h.1

lemma escapes_cons (hc : c ≠ '\\') (cs : List Char) : Escapes (c :: cs) ↔ Escapes cs := by
  induction cs using List.reverseRecOn with
  | nil => exact iff_of_false (fun h => hc ((escapes_concat [] c).mp h).1) not_escapes_nil
  | append_singleton cs d ih => rw [← List.cons_append, escapes_concat, escapes_concat, ih]

lemma escapes_backslash : Escapes ['\\'] :=
  (escapes_concat [] '\\').mpr ⟨rfl, not_escapes_nil⟩

lemma escapes_pair (c : Char) (cs : List Char) : Escapes ('\\' :: c :: cs) ↔ Escapes cs := by
  induction cs using List.reverseRecOn with
  | nil =>
    refine iff_of_false (fun h => ?_) not_escapes_nil
    exact ((escapes_concat ['\\'] c).mp h).2 escapes_backslash
  | append_singleton cs d ih =>
    rw [← List.cons_append, ← List.cons_append, escapes_concat, escapes_concat, ih]

lemma decoded_cons (hc : c ≠ '\\') (cs : List Char) : decoded (c :: cs) = c :: decoded cs := by
  rw [decoded]
  · exact fun _ h _ => hc h
  · exact fun _ h _ => hc h
  · exact fun _ _ h _ => hc h

lemma decoded_pair (c : Char) (cs : List Char) :
    decoded ('\\' :: c :: cs) = unescape c :: decoded cs := by
  unfold unescape
  split
  · rw [decoded]
  · rw [decoded]
  · next hn ht => rw [decoded] <;> assumption

def Closes (p cs : List Char) : Prop :=
  p ++ ['"'] <+: cs ∧ ¬Escapes p

lemma closes_cons (hquote : c ≠ '"') (hslash : c ≠ '\\') {p : List Char} :
    Closes p (c :: cs) ↔ ∃ q, p = c :: q ∧ Closes q cs := by
  constructor
  · rintro ⟨hstart, hp⟩
    cases p with
    | nil => exact absurd (List.cons_prefix_cons.mp hstart).1 hquote.symm
    | cons d q =>
      obtain ⟨rfl, hq⟩ := List.cons_prefix_cons.mp hstart
      exact ⟨q, rfl, hq, (escapes_cons hslash q).not.mp hp⟩
  · rintro ⟨q, rfl, hq, hp⟩
    exact ⟨List.cons_prefix_cons.mpr ⟨rfl, hq⟩, (escapes_cons hslash q).not.mpr hp⟩

lemma closes_pair {p : List Char} :
    Closes p ('\\' :: c :: cs) ↔ ∃ q, p = '\\' :: c :: q ∧ Closes q cs := by
  constructor
  · rintro ⟨hstart, hp⟩
    match p with
    | [] => exact absurd (List.cons_prefix_cons.mp hstart).1 (by decide)
    | [d] =>
      obtain ⟨rfl, -⟩ := List.cons_prefix_cons.mp hstart
      exact absurd escapes_backslash hp
    | d :: e :: q =>
      obtain ⟨rfl, hrest⟩ := List.cons_prefix_cons.mp hstart
      obtain ⟨rfl, hq⟩ := List.cons_prefix_cons.mp hrest
      exact ⟨q, rfl, hq, (escapes_pair e q).not.mp hp⟩
  · rintro ⟨q, rfl, hq, hp⟩
    refine ⟨List.cons_prefix_cons.mpr ⟨rfl, List.cons_prefix_cons.mpr ⟨rfl, hq⟩⟩, ?_⟩
    exact (escapes_pair c q).not.mpr hp

lemma not_closes_nil {p : List Char} : ¬Closes p [] :=
  fun h => by simp [Closes] at h

lemma closes_singleton {p : List Char} : Closes p [c] ↔ p = [] ∧ c = '"' := by
  constructor
  · rintro ⟨hstart, -⟩
    have hlength : p.length + 1 ≤ 1 := by simpa using hstart.length_le
    obtain rfl : p = [] := List.length_eq_zero_iff.mp (by omega)
    exact ⟨rfl, (List.cons_prefix_cons.mp hstart).1.symm⟩
  · rintro ⟨rfl, rfl⟩
    exact ⟨List.prefix_rfl, not_escapes_nil⟩

lemma stringTail_cases (cs : List Char) :
    (∃ inside, stringTail cs = inside ++ ['"'] ∧ stringText cs = decoded inside ∧
      ∀ p, Closes p (stringTail cs) ↔ p = inside) ∨
    (stringTail cs = cs ∧ stringText cs = decoded cs ∧ ∀ p, ¬Closes p cs) := by
  fun_induction stringTail cs with
  | case1 => exact .inr ⟨rfl, rfl, fun p => not_closes_nil⟩
  | case2 cs =>
    exact .inl ⟨[], rfl, rfl, fun p => closes_singleton.trans (and_iff_left rfl)⟩
  | case3 c cs ih =>
    rcases ih with ⟨inside, htail, htext, hcloses⟩ | ⟨htail, htext, hopen⟩
    · refine .inl ⟨'\\' :: c :: inside, by rw [htail]; rfl, ?_, fun p => ?_⟩
      · rw [stringText, htext, decoded_pair]
      · simp only [closes_pair, hcloses, exists_eq_right]
    · refine .inr ⟨by rw [htail], by rw [stringText, htext, decoded_pair], fun p hp => ?_⟩
      obtain ⟨q, -, hq⟩ := closes_pair.mp hp
      exact hopen q hq
  | case4 c cs hquote hslash ih =>
    by_cases hc : c = '\\'
    -- The last character: with another one behind it, it would be a pair.
    · obtain rfl : cs = [] := by
        cases cs with
        | nil => rfl
        | cons d ds => exact (hslash d ds hc rfl).elim
      subst hc
      exact .inr ⟨rfl, rfl, fun p hp => absurd (closes_singleton.mp hp).2 (by decide)⟩
    · have hstep : stringText (c :: cs) = c :: stringText cs := by
        rw [stringText]
        · exact hquote
        · exact fun _ _ h => absurd h hc
      rcases ih with ⟨inside, htail, htext, hcloses⟩ | ⟨htail, htext, hopen⟩
      · refine .inl ⟨c :: inside, by rw [htail]; rfl, ?_, fun p => ?_⟩
        · rw [hstep, htext, decoded_cons hc]
        · simp only [closes_cons hquote hc, hcloses, exists_eq_right]
      · refine .inr ⟨by rw [htail], by rw [hstep, htext, decoded_cons hc], fun p hp => ?_⟩
        obtain ⟨q, -, hq⟩ := (closes_cons hquote hc).mp hp
        exact hopen q hq

def Inside (src inside : List Char) : Prop :=
  src = '"' :: (inside ++ ['"']) ∧ IsQuoted src ∨ src = '"' :: inside ∧ ¬IsQuoted src

lemma exists_inside (cs : List Char) : ∃ inside, Inside ('"' :: stringTail cs) inside ∧
    stringText cs = decoded inside := by
  rcases stringTail_cases cs with ⟨inside, htail, htext, hcloses⟩ | ⟨htail, htext, hopen⟩
  · obtain ⟨-, hinside⟩ := (hcloses inside).mpr rfl
    exact ⟨inside, .inl ⟨by rw [htail], inside, by rw [htail], hinside⟩, htext⟩
  · refine ⟨cs, .inr ⟨by rw [htail], ?_⟩, htext⟩
    rintro ⟨inside, heq, hinside⟩
    rw [htail] at heq
    exact hopen inside ⟨(List.cons.inj heq).2 ▸ List.prefix_rfl, hinside⟩

end ScenarioScript.Lexeme
