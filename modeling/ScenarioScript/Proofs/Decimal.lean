import Mathlib.Data.List.TakeWhile
import Mathlib.Tactic.IntervalCases
import ScenarioScript.Decimal
import ScenarioScript.Text.Lines

namespace ScenarioScript.Decimal

lemma digitValue?_of_isDigit {c : Char} (hc : c.isDigit = true) :
    Text.digitValue? c = some (c.toNat - 48) := by
  have hn := Char.isDigit_iff_toNat.mp hc
  have h : c.toNat < 128 := hn.2.trans_lt (by decide)
  simp [Text.digitValue?, h, hc]

lemma isPadding_of_isDigit {c : Char} (hc : c.isDigit = true) : isPadding c = false := by
  have hn := Char.isDigit_iff_toNat.mp hc
  simp only [Char.reduceToNat] at hn
  simp only [isPadding, Text.isBlank, Bool.and_eq_false_iff, Bool.or_eq_false_iff,
    decide_eq_false_iff_not]
  omega

lemma digits?_of_isDigit {cs : List Char} (h : ∀ c ∈ cs, c.isDigit = true) (hne : cs ≠ []) :
    digits? cs = some (cs.map (·.toNat - 48)) := by
  fun_induction digits? cs with
  | case1 => exact (hne rfl).elim
  | case2 c => simp [digitValue?_of_isDigit (h c (by simp))]
  | case3 c cs ih => exact absurd (h '_' (by simp)) (by decide)
  | case4 c cs hcs _ ih =>
    have hcs' : cs ≠ [] := fun he => hcs he
    rw [ih (fun d hd => h d (by simp [hd])) hcs', digitValue?_of_isDigit (h c (by simp))]
    rfl

lemma valueOf_map (cs : List Char) :
    valueOf (cs.map (·.toNat - 48)) = Nat.ofDigitChars 10 cs 0 := by
  rw [valueOf, List.foldl_map]
  rfl

lemma natural?_of_isDigit {cs : List Char} (h : ∀ c ∈ cs, c.isDigit = true) (hne : cs ≠ []) :
    natural? cs = if cs.length ≤ maxDigits then some (Nat.ofDigitChars 10 cs 0) else none := by
  simp [natural?, digits?_of_isDigit h hne, valueOf_map]

lemma stripPadding_eq_self {cs : List Char} (h : ∀ c ∈ cs, isPadding c = false) :
    stripPadding cs = cs := by
  have hl : cs.dropWhile isPadding = cs := List.dropWhile_eq_self_iff.mpr (by simp_all)
  have hr : cs.reverse.dropWhile isPadding = cs.reverse :=
    List.dropWhile_eq_self_iff.mpr (by
      intro hp
      have := h (cs.reverse[0]) (List.mem_reverse.mp (List.getElem_mem hp))
      simpa using this)
  rw [stripPadding, hl, hr, List.reverse_reverse]

lemma read?_minus {s : String} {cs : List Char} (hs : s.toList = '-' :: cs)
    (h : ∀ c ∈ cs, isPadding c = false) : read? s = (natural? cs).map fun n : ℕ => -(n : ℤ) := by
  rw [read?, hs, stripPadding_eq_self (List.forall_mem_cons.mpr ⟨rfl, h⟩)]
  split
  · next ds he =>
    obtain rfl := (List.cons.inj he).2
    cases natural? cs <;> rfl
  · next ds he => exact absurd (List.cons.inj he).1 (by decide)
  · next hminus _ => exact absurd rfl (hminus cs)

lemma read?_unsigned {s : String} (h : ∀ c ∈ s.toList, isPadding c = false)
    (hhead : ∀ c ∈ s.toList.head?, c.isDigit = true) : read? s = (natural? s.toList).map Int.ofNat := by
  rw [read?, stripPadding_eq_self h]
  split
  · next cs he => exact absurd (hhead '-' (by simp [he])) (by decide)
  · next cs he => exact absurd (hhead '+' (by simp [he])) (by decide)
  · rfl

lemma read?_of_isDigit {s : String} (h : ∀ c ∈ s.toList, c.isDigit = true) (hne : s ≠ "") :
    read? s = if s.toList.length ≤ maxDigits then some (Nat.ofDigitChars 10 s.toList 0 : ℤ)
      else none := by
  have hne' : s.toList ≠ [] := by simpa using hne
  rw [read?_unsigned (fun c hc => isPadding_of_isDigit (h c hc))
    (fun c hc => h c (List.mem_of_mem_head? hc)), natural?_of_isDigit h hne']
  split <;> rfl

lemma isDigit_of_mem_digitChars {n : ℕ} {c : Char} (hc : c ∈ digitChars n) : c.isDigit = true :=
  Nat.isDigit_of_mem_toDigits (by decide) (by decide) hc

lemma digitChars_ne_nil (n : ℕ) : digitChars n ≠ [] :=
  Nat.toDigits_ne_nil

lemma eq_zero_of_head?_digitChars {n : ℕ} (h : (digitChars n).head? = some '0') : n = 0 := by
  induction n using Nat.strong_induction_on with
  | _ n ih =>
    rcases Nat.lt_or_ge n 10 with hlt | hge
    · rw [digitChars, Nat.toDigits_of_lt_base hlt, List.head?_cons, Option.some.injEq] at h
      interval_cases n <;> simp_all
    · obtain ⟨c, cs, hc⟩ := List.exists_cons_of_ne_nil (digitChars_ne_nil (n / 10))
      rw [digitChars, Nat.toDigits_of_base_le (by decide) hge, ← digitChars, hc] at h
      have := ih (n / 10) (by omega) (hc ▸ h)
      omega

lemma natural?_digitChars {n : ℕ} (h : (digitChars n).length ≤ maxDigits) :
    natural? (digitChars n) = some n := by
  rw [natural?_of_isDigit (fun _ => isDigit_of_mem_digitChars) (digitChars_ne_nil n), if_pos h,
    digitChars, Nat.ofDigitChars_ten_toDigits]

lemma read?_text {n : ℤ} (h : isShort n = true) : read? (text n) = some n := by
  have h' : (digitChars n.natAbs).length ≤ maxDigits := by simpa [isShort] using h
  cases n with
  | ofNat n =>
    have hd : ∀ c ∈ (text (.ofNat n)).toList, c.isDigit = true := by
      intro c hc
      exact isDigit_of_mem_digitChars (n := n) (by simpa [text, chars] using hc)
    rw [read?_of_isDigit hd (by simp [text, chars, digitChars_ne_nil])]
    simp [text, chars, digitChars] at h' ⊢
    exact h'
  | negSucc n =>
    have hn : natural? (digitChars (n + 1)) = some (n + 1) := natural?_digitChars h'
    have hs : (text (.negSucc n)).toList = '-' :: digitChars (n + 1) := String.toList_ofList
    rw [read?_minus hs fun c hc => isPadding_of_isDigit (isDigit_of_mem_digitChars hc), hn]
    rfl

lemma read?_text_of_long {n : ℕ} (h : isShort n = false) : read? (text n) = none := by
  have hlong : ¬(digitChars n).length ≤ maxDigits := by simpa [isShort] using h
  have hd : ∀ c ∈ (text n).toList, c.isDigit = true := by
    intro c hc
    exact isDigit_of_mem_digitChars (n := n) (by simpa [text, chars] using hc)
  rw [read?_of_isDigit hd (by simp [text, chars, digitChars_ne_nil]), if_neg]
  simpa [text, chars] using hlong

lemma isLineBreak_of_mem_digitChars {n : ℕ} {c : Char} (hc : c ∈ digitChars n) :
    Text.isLineBreak c = false := by
  have hn := Char.isDigit_iff_toNat.mp (isDigit_of_mem_digitChars hc)
  simp only [Char.reduceToNat] at hn
  simp only [Text.isLineBreak, Bool.or_eq_false_iff, Bool.and_eq_false_iff, decide_eq_false_iff_not]
  omega

lemma isLineBreak_of_mem_chars {n : ℤ} {c : Char} (hc : c ∈ chars n) :
    Text.isLineBreak c = false := by
  cases n with
  | ofNat n => exact isLineBreak_of_mem_digitChars hc
  | negSucc n =>
    rcases List.mem_cons.mp hc with rfl | hc
    · rfl
    · exact isLineBreak_of_mem_digitChars hc

lemma text_injective_natCast : Function.Injective fun n : ℕ => text n := by
  intro m n h
  have h' : digitChars m = digitChars n := String.ofList_injective h
  simpa [digitChars] using congrArg (fun l => Nat.ofDigitChars 10 l 0) h'

lemma isShort_iff {n : ℤ} : isShort n = true ↔ n.natAbs < 10 ^ maxDigits := by
  rw [isShort, decide_eq_true_eq, digitChars,
    Nat.length_toDigits_le_iff (by decide) (by decide)]

lemma digitValue?_lt {c : Char} {d : ℕ} (h : Text.digitValue? c = some d) : d < 10 := by
  unfold Text.digitValue? at h
  split at h
  · split at h
    · next hc =>
      have hn := Char.isDigit_iff_toNat.mp hc
      simp only [Char.reduceToNat, Option.some.injEq] at hn h
      omega
    · simp at h
  · obtain ⟨z, hz, rfl⟩ := Option.map_eq_some_iff.mp h
    have := List.find?_some hz
    simp only [Bool.and_eq_true, decide_eq_true_eq] at this
    omega

lemma lt_of_mem_digits? {cs : List Char} {ds : List ℕ} (h : digits? cs = some ds) :
    ∀ d ∈ ds, d < 10 := by
  fun_induction digits? cs generalizing ds with
  | case1 => simp at h
  | case2 c =>
    obtain ⟨d, hd, rfl⟩ := Option.map_eq_some_iff.mp h
    simpa using digitValue?_lt hd
  | case3 c cs ih | case4 c cs _ _ ih =>
    simp only [Option.pure_def, Option.bind_eq_bind, Option.bind_eq_some_iff,
      Option.some.injEq] at h
    obtain ⟨d, hd, ds', hds, rfl⟩ := h
    simpa using ⟨digitValue?_lt hd, ih hds⟩

lemma digits?_eq_none_of_mem {cs : List Char} {c : Char} (hc : c ∈ cs)
    (hvalue : Text.digitValue? c = none) (hline : c ≠ '_') : digits? cs = none := by
  fun_induction digits? cs with
  | case1 => simp at hc
  | case2 d =>
    obtain rfl := List.mem_singleton.mp hc
    rw [hvalue, Option.map_none]
  | case3 d cs ih =>
    rcases List.mem_cons.mp hc with rfl | hc
    · simp [hvalue]
    · simp [ih ((List.mem_cons.mp hc).resolve_left hline)]
  | case4 d cs _ _ ih =>
    rcases List.mem_cons.mp hc with rfl | hc
    · simp [hvalue]
    · simp [ih hc]

lemma natural?_eq_none_of_mem {cs : List Char} {c : Char} (hc : c ∈ cs)
    (hvalue : Text.digitValue? c = none) (hline : c ≠ '_') : natural? cs = none := by
  rw [natural?, digits?_eq_none_of_mem hc hvalue hline]
  rfl

lemma valueOf_lt {ds : List ℕ} (h : ∀ d ∈ ds, d < 10) : valueOf ds < 10 ^ ds.length := by
  have hfold : ∀ m, ds.foldl (fun n d => 10 * n + d) m < (m + 1) * 10 ^ ds.length := by
    induction ds with
    | nil => simp
    | cons d ds ih =>
      intro m
      have hd : d < 10 := h d (by simp)
      calc ds.foldl (fun n d => 10 * n + d) (10 * m + d)
        _ < (10 * m + d + 1) * 10 ^ ds.length := ih (fun e he => h e (by simp [he])) _
        _ ≤ (10 * (m + 1)) * 10 ^ ds.length := Nat.mul_le_mul_right _ (by omega)
        _ = (m + 1) * 10 ^ (d :: ds).length := by
          rw [List.length_cons, Nat.pow_succ, Nat.mul_comm 10, Nat.mul_assoc, Nat.mul_comm 10]
  simpa [valueOf] using hfold 0

lemma natural?_lt {cs : List Char} {n : ℕ} (h : natural? cs = some n) : n < 10 ^ maxDigits := by
  simp only [natural?, Option.bind_eq_bind, Option.bind_eq_some_iff] at h
  obtain ⟨ds, hds, h⟩ := h
  split at h
  · next hlen =>
    obtain rfl := Option.some.inj h
    exact (valueOf_lt (lt_of_mem_digits? hds)).trans_le
      (Nat.pow_le_pow_right (by decide) hlen)
  · simp at h

lemma isShort_of_read? {s : String} {n : ℤ} (h : read? s = some n) : isShort n = true := by
  rw [isShort_iff]
  unfold read? at h
  have hplus {cs : List Char} (h : (natural? cs).map Int.ofNat = some n) :
      n.natAbs < 10 ^ maxDigits := by
    obtain ⟨m, hm, rfl⟩ := Option.map_eq_some_iff.mp h
    exact natural?_lt hm
  split at h
  · simp only [Option.pure_def, Option.bind_eq_bind, Option.map_eq_some_iff,
      Option.bind_eq_some_iff, Option.some.injEq] at h
    obtain ⟨_, ⟨m, hm, rfl⟩, rfl⟩ := h
    rw [Int.natAbs_neg, Int.natAbs_natCast]
    exact natural?_lt hm
  · exact hplus h
  · exact hplus h

end ScenarioScript.Decimal
