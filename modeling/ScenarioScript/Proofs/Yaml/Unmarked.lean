import ScenarioScript.Proofs.Decimal
import ScenarioScript.Proofs.Yaml.Unquoted
import ScenarioScript.Yaml.Integer

namespace ScenarioScript.Yaml

namespace Scalar.Unmarked

variable {c : Char} {cs : List Char}

lemma not_mem_indicators (h : Unmarked (c :: cs)) : c ∉ indicators := by
  have hstarts := h.starts
  simp only [startsWithIndicator, Bool.or_eq_false_iff, List.contains_eq_mem,
    decide_eq_false_iff_not] at hstarts
  exact hstarts.2.1

lemma blankAhead (h : Unmarked (c :: cs)) (hc : c = '?' ∨ c = ':' ∨ c = '-') :
    blankAhead cs = false := by
  have hstarts := h.starts
  simp only [startsWithIndicator, Bool.or_eq_false_iff, List.contains_eq_mem,
    decide_eq_false_iff_not] at hstarts
  rcases hc with rfl | rfl | rfl <;> simpa using hstarts.2.2

lemma isBlank (h : Unmarked (c :: cs)) : isBlank c = false := by
  have hspace := h.head c rfl
  have hbreak := h.unbroken c (by simp)
  exact Unquoted.isBlank_of_isSolid (by simpa [isSolid, isSpace, hbreak] using hspace)
    (h.ordinary c (by simp))

lemma symbolStart (h : Unmarked (c :: cs)) (rest : List Char) : SymbolStart (c :: rest) := by
  refine ⟨by simpa [Past] using h.head, by simpa [Past] using h.unbroken c (by simp), ?_, ?_⟩
  · rw [List.head?_cons, ne_eq, Option.some.injEq]
    rintro rfl
    exact h.not_mem_indicators (by decide)
  · rw [List.head?_cons, ne_eq, Option.some.injEq]
    rintro rfl
    exact absurd (h.ordinary _ List.mem_cons_self) (by decide)

end Scalar.Unmarked

namespace Scalar

variable {cs : List Char}

lemma needsEscapes_of_style (h : style cs ≠ .double) :
    (∀ c ∈ cs, isOrdinary c = true) ∧ hasPair isSpace isBreak cs = false ∧
      hasPair isBreak isSpace cs = false := by
  have hescapes : needsEscapes cs = false := by
    by_contra hn
    exact h (by rw [style, if_pos (by simpa using hn)])
  simpa [needsEscapes, and_assoc] using hescapes

lemma isPlain_of_style (h : style cs = .plain) : isPlain cs = true := by
  unfold style at h
  split at h
  · simp at h
  · split at h
    · assumption
    · simp at h

lemma unmarked_of_style (h : style cs = .plain) : Unmarked cs := by
  have hplain := isPlain_of_style h
  simp only [isPlain, Bool.and_eq_true, Bool.not_eq_true', decide_eq_true_eq, List.any_eq_false,
    Bool.not_eq_true] at hplain
  obtain ⟨⟨⟨⟨⟨hbreak, hhead⟩, hlast⟩, hstarts⟩, hindicator⟩, -⟩ := hplain
  refine ⟨(needsEscapes_of_style (by simp [h])).1, hbreak, fun c hc => ?_, hlast, hstarts, hindicator⟩
  simpa [isSpace] using fun he => hhead (by rw [← he]; exact hc)

lemma plainKind_of_style (h : style cs = .plain) : plainKind cs = .text := by
  have hplain := isPlain_of_style h
  simp only [isPlain, Bool.and_eq_true, decide_eq_true_eq] at hplain
  exact hplain.2

lemma ne_nil_of_style (h : style cs = .plain) : cs ≠ [] := by
  rintro rfl
  exact absurd (plainKind_of_style h) (by decide)

section Words

lemma isOrdinary_of_isAlphanum {c : Char} (h : c.isAlphanum = true) : isOrdinary c = true := by
  have hcases : (decide (c.val ≥ 65 ∧ c.val ≤ 90) || (decide (c.val ≥ 97) && decide (c.val ≤ 122)) ||
      (decide (c.val ≥ 48) && decide (c.val ≤ 57))) = true := h
  have hc : 32 ≤ c.toNat ∧ c.toNat ≤ 126 := by
    simp [UInt32.le_iff_toNat_le] at hcases
    omega
  simp [isOrdinary, hc]

lemma hasIndicator_of_notMem (hcolon : ':' ∉ cs) (hcomment : '#' ∉ cs) : hasIndicator cs = false := by
  fun_induction hasIndicator cs with
  | case1 => rfl
  | case2 cs ih => simp at hcolon
  | case3 c cs ih => simp at hcomment
  | case4 c cs _ _ ih => exact ih (by simp_all) (by simp_all)

lemma unmarked_of_word (h : ∀ c ∈ cs, c.isAlphanum = true ∨ c = '-')
    (hstarts : startsWithIndicator cs = false) : Unmarked cs := by
  have hordinary : ∀ c ∈ cs, isOrdinary c = true := by
    intro c hc
    rcases h c hc with hc | rfl
    · exact isOrdinary_of_isAlphanum hc
    · rfl
  have hnot {d : Char} (hd : (d.isAlphanum || d = '-') = false) : d ∉ cs := by
    intro hmem
    simp only [Bool.or_eq_false_iff, decide_eq_false_iff_not] at hd
    exact (h d hmem).elim (by simp [hd.1]) hd.2
  refine ⟨hordinary, fun c hc => ?_, fun c hc => ?_, fun hl => ?_, hstarts, ?_⟩
  · have hne {d : Char} (hd : (d.isAlphanum || d = '-') = false) : c ≠ d := by
      rintro rfl
      exact hnot hd hc
    simp [isBreak, hne (d := '\n') rfl, hne (d := '\u0085') rfl, hne (d := '\u2028') rfl,
      hne (d := '\u2029') rfl]
  · rw [isSpace, decide_eq_false_iff_not]
    rintro rfl
    exact hnot rfl (List.mem_of_mem_head? hc)
  · exact hnot rfl (List.mem_of_getLast? hl)
  · exact hasIndicator_of_notMem (hnot rfl) (hnot rfl)

lemma ne_of_isAlphanum {c d : Char} (hc : c.isAlphanum = true) (hd : d.isAlphanum = false) :
    c ≠ d := by
  rintro rfl
  simp [hd] at hc

lemma isBlank_of_isAlphanum {c : Char} (hc : c.isAlphanum = true) : isBlank c = false := by
  simp [isBlank, isBreak, ne_of_isAlphanum hc (d := '\x00') rfl, ne_of_isAlphanum hc (d := ' ') rfl,
    ne_of_isAlphanum hc (d := '\t') rfl, ne_of_isAlphanum hc (d := '\r') rfl,
    ne_of_isAlphanum hc (d := '\n') rfl, ne_of_isAlphanum hc (d := '\u0085') rfl,
    ne_of_isAlphanum hc (d := '\u2028') rfl, ne_of_isAlphanum hc (d := '\u2029') rfl]

lemma startsWithIndicator_of_isAlphanum {c : Char} (hc : c.isAlphanum = true) :
    startsWithIndicator (c :: cs) = false := by
  have hindicator : c ∉ indicators := by
    have hall : ∀ d ∈ indicators, d.isAlphanum = false := by decide
    exact fun h => absurd (hall c h) (by simp [hc])
  have hdash := ne_of_isAlphanum hc (d := '-') rfl
  have hdot := ne_of_isAlphanum hc (d := '.') rfl
  simp [startsWithIndicator, List.isPrefixOf, hindicator, hdash, hdash.symm, hdot.symm,
    ne_of_isAlphanum hc (d := '?') rfl, ne_of_isAlphanum hc (d := ':') rfl]

lemma startsWithIndicator_dash {c : Char} (hc : c.isAlphanum = true) :
    startsWithIndicator ('-' :: c :: cs) = false := by
  have hindicator : '-' ∉ indicators := by decide
  have hdash := ne_of_isAlphanum hc (d := '-') rfl
  simp [startsWithIndicator, List.isPrefixOf, hindicator, hdash.symm, blankAhead,
    isBlank_of_isAlphanum hc]

lemma isAlphanum_of_mem_digitChars {n : ℕ} {c : Char} (hc : c ∈ Decimal.digitChars n) :
    c.isAlphanum = true := by
  simp [Char.isAlphanum, Decimal.isDigit_of_mem_digitChars hc]

lemma isAlphanum_or_of_mem_chars {n : ℤ} {c : Char} (hc : c ∈ Decimal.chars n) :
    c.isAlphanum = true ∨ c = '-' := by
  cases n with
  | ofNat n => exact .inl (isAlphanum_of_mem_digitChars hc)
  | negSucc n => exact (List.mem_cons.mp hc).symm.imp_left isAlphanum_of_mem_digitChars

lemma unmarked_chars (n : ℤ) : Unmarked (Decimal.chars n) := by
  refine unmarked_of_word (fun c hc => isAlphanum_or_of_mem_chars hc) ?_
  cases n with
  | ofNat n =>
    obtain ⟨c, cs, hcs⟩ := List.exists_cons_of_ne_nil (Decimal.digitChars_ne_nil n)
    rw [Decimal.chars, hcs]
    exact startsWithIndicator_of_isAlphanum (isAlphanum_of_mem_digitChars (n := n) (by simp [hcs]))
  | negSucc n =>
    obtain ⟨c, cs, hcs⟩ := List.exists_cons_of_ne_nil (Decimal.digitChars_ne_nil (n + 1))
    rw [Decimal.chars, hcs]
    exact startsWithIndicator_dash (isAlphanum_of_mem_digitChars (n := n + 1) (by simp [hcs]))

end Words

end Scalar

section Integers

lemma digits_cases (n : ℕ) : n = 0 ∨ ∃ c cs, Decimal.digitChars n = c :: cs ∧ c ≠ '0' ∧
    ∀ d ∈ c :: cs, d.isDigit = true := by
  obtain ⟨c, cs, hcs⟩ := List.exists_cons_of_ne_nil (Decimal.digitChars_ne_nil n)
  by_cases hc : c = '0'
  · exact .inl (Decimal.eq_zero_of_head?_digitChars (by rw [hcs, hc]; rfl))
  · exact .inr ⟨c, cs, hcs, hc, fun d hd => Decimal.isDigit_of_mem_digitChars (hcs ▸ hd)⟩

lemma isUnsignedInt_digitChars (n : ℕ) : Plain.isUnsignedInt (Decimal.digitChars n) = true := by
  rcases digits_cases n with rfl | ⟨c, cs, hcs, hc, hdigit⟩
  · rfl
  · have hall : cs.all Plain.isDigitOrBar = true :=
      List.all_eq_true.mpr fun d hd => by simp [Plain.isDigitOrBar, hdigit d (by simp [hd])]
    rw [hcs]
    unfold Plain.isUnsignedInt
    split <;> simp_all

lemma exists_chars_eq_cons (n : ℤ) :
    ∃ c cs, Decimal.chars n = c :: cs ∧ (c.isDigit || c = '-') = true := by
  cases n with
  | ofNat n =>
    obtain ⟨c, cs, hcs⟩ := List.exists_cons_of_ne_nil (Decimal.digitChars_ne_nil n)
    exact ⟨c, cs, hcs, by simp [Decimal.isDigit_of_mem_digitChars (n := n) (c := c) (by simp [hcs])]⟩
  | negSucc n => exact ⟨'-', _, rfl, rfl⟩

lemma text_notMem {ss : List String}
    (h : ∀ s ∈ ss, s.toList.head?.any (fun c => c.isDigit || c = '-') = false) (n : ℤ) :
    Decimal.text n ∉ ss := by
  intro hmem
  obtain ⟨c, cs, hcs, hc⟩ := exists_chars_eq_cons n
  have hfalse := h _ hmem
  rw [Decimal.text, String.toList_ofList, hcs, List.head?_cons, Option.any_some, hc] at hfalse
  contradiction

lemma text_natCast (n : ℕ) : Decimal.text n = String.ofList (Decimal.digitChars n) := rfl

lemma isSignedFloat_digitChars (n : ℕ) : Plain.isSignedFloat (Decimal.digitChars n) = false := by
  have hinfinities : Decimal.text n ∉ Plain.infinities := text_notMem (by decide) n
  obtain ⟨c, cs, hcs⟩ := List.exists_cons_of_ne_nil (Decimal.digitChars_ne_nil n)
  have hdrop : cs.dropWhile Plain.isDigitOrBar = [] :=
    List.dropWhile_eq_nil_iff.mpr fun d hd => by
      simp [Plain.isDigitOrBar, Decimal.isDigit_of_mem_digitChars (n := n) (c := d) (by simp [hcs, hd])]
  have hcontains : Plain.infinities.contains (String.ofList (c :: cs)) = false := by
    rwa [List.contains_eq_mem, decide_eq_false_iff_not, ← hcs, ← text_natCast]
  rw [hcs, Plain.isSignedFloat, hcontains, hdrop]
  simp [Plain.sixties]

lemma unsigned_digitChars (n : ℕ) :
    Plain.unsigned (Decimal.digitChars n) = Decimal.digitChars n := by
  obtain ⟨c, cs, hcs⟩ := List.exists_cons_of_ne_nil (Decimal.digitChars_ne_nil n)
  have hc : c.isDigit = true := Decimal.isDigit_of_mem_digitChars (n := n) (by simp [hcs])
  rw [hcs]
  unfold Plain.unsigned
  split
  · next he => simp [(List.cons.inj he).1] at hc
  · next he => simp [(List.cons.inj he).1] at hc
  · rfl

lemma unsigned_chars (n : ℤ) : Plain.unsigned (Decimal.chars n) = Decimal.digitChars n.natAbs := by
  cases n with
  | ofNat n => exact unsigned_digitChars n
  | negSucc n => rfl

lemma plainKind_chars (n : ℤ) : plainKind (Decimal.chars n) = .int := by
  have hbools : Decimal.text n ∉ Plain.trues ++ Plain.falses := text_notMem (by decide) n
  have hnans : Decimal.text n ∉ Plain.nans := text_notMem (by decide) n
  have hfloat : Plain.isFloat (Decimal.chars n) = false := by
    have hcontains : Plain.nans.contains (String.ofList (Decimal.chars n)) = false := by
      rwa [List.contains_eq_mem, decide_eq_false_iff_not]
    rw [Plain.isFloat.eq_def, unsigned_chars, isSignedFloat_digitChars, hcontains]
    obtain ⟨c, cs, hcs, hc⟩ := exists_chars_eq_cons n
    have hdot : c ≠ '.' := by
      rintro rfl
      simp at hc
    rw [hcs]
    split
    · next he => exact absurd (List.cons.inj he).1 hdot
    · rfl
  have hint : Plain.isInt (Decimal.chars n) = true := by
    rw [Plain.isInt, unsigned_chars, isUnsignedInt_digitChars]
  rw [plainKind, ← Decimal.text]
  simp [hbools, hfloat, hint]

namespace Integer

lemma unsigned_eq {n : ℕ} (h : Decimal.isShort n = true) :
    unsigned (Point.chars (Decimal.digitChars n)) = .ok (n : ℤ) := by
  rcases digits_cases n with rfl | ⟨c, cs, hcs, hc, hdigit⟩
  · rfl
  · have hcolon : (Point.chars (c :: cs)).contains (.char ':') = false := by
      rw [List.contains_eq_mem, decide_eq_false_iff_not, Point.mem_chars]
      exact fun hmem => absurd (hdigit _ hmem) (by decide)
    have hdecimal : decimal (Point.chars (c :: cs)) = .ok (n : ℤ) := by
      have hread : Decimal.read? (String.ofList (c :: cs)) = some (n : ℤ) := by
        rw [← hcs, ← text_natCast]
        exact Decimal.read?_text h
      have hstrip : Decimal.stripPadding (c :: cs) = c :: cs :=
        Decimal.stripPadding_eq_self fun d hd => Decimal.isPadding_of_isDigit (hdigit d hd)
      have hlength : (leadingDigits (c :: cs)).length ≤ Decimal.maxDigits := by
        rw [leadingDigits, hstrip, ← hcs, unsigned_digitChars]
        exact (List.takeWhile_sublist _).length_le.trans (by simpa [Decimal.isShort] using h)
      simp only [decimal, Point.shapes_chars, if_neg (Nat.not_lt.mpr hlength), hread]
    rw [hcs]
    rw [Point.chars_cons] at hcolon hdecimal ⊢
    unfold unsigned
    split
    · simp_all
    · simp_all
    · simp_all
    · simp_all
    · simp_all
    · rw [if_neg (by rw [hcolon]; decide), hdecimal]

lemma read_text {n : ℤ} (h : Decimal.isShort n = true) :
    read (Point.ofText (Decimal.text n)) = .ok n := by
  have hbar (m : ℕ) : (Point.chars (Decimal.digitChars m)).filter (· ≠ .char '_') =
      Point.chars (Decimal.digitChars m) := by
    refine List.filter_eq_self.mpr fun p hp => ?_
    obtain ⟨c, hc, rfl⟩ := List.mem_map.mp hp
    have hne := Scalar.ne_of_isAlphanum (Scalar.isAlphanum_of_mem_digitChars hc) (d := '_') rfl
    simpa using hne
  cases n with
  | ofNat n =>
    have hread : read (Point.ofText (Decimal.text n)) =
        unsigned (Point.chars (Decimal.digitChars n)) := by
      rw [read, text_natCast, Point.ofText, String.toList_ofList, hbar]
      obtain ⟨c, cs, hcs⟩ := List.exists_cons_of_ne_nil (Decimal.digitChars_ne_nil n)
      have hc : c.isDigit = true := Decimal.isDigit_of_mem_digitChars (n := n) (by simp [hcs])
      rw [hcs, Point.chars_cons]
      split
      · next he => simp [Point.char.inj (List.cons.inj he).1] at hc
      · next he => simp [Point.char.inj (List.cons.inj he).1] at hc
      · rfl
    exact hread.trans (unsigned_eq h)
  | negSucc n =>
    have hread : read (Point.ofText (Decimal.text (.negSucc n))) =
        (unsigned (Point.chars (Decimal.digitChars (n + 1)))).map (-·) := by
      rw [read, Decimal.text, Point.ofText, String.toList_ofList, Decimal.chars, Point.chars_cons,
        List.filter_cons_of_pos (by decide), hbar]
      rfl
    rw [hread, unsigned_eq h]
    rfl

end Integer

end Integers

end ScenarioScript.Yaml
