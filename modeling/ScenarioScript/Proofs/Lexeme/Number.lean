import ScenarioScript.Proofs.Lexeme.WrittenBack

namespace ScenarioScript

namespace Decimal

def figures (cs : List Char) : List Char :=
  cs.filter Char.isDigit

def signed (cs : List Char) : ℤ :=
  if cs.head? = some '-' then -(Nat.ofDigitChars 10 (figures cs) 0 : ℤ)
  else Nat.ofDigitChars 10 (figures cs) 0

variable {digits fraction cs : List Char}

lemma figures_of_isDigit (h : ∀ d ∈ digits, d.isDigit = true) : figures digits = digits :=
  List.filter_eq_self.mpr h

lemma natural?_of_fraction (hdigits : ∀ d ∈ digits, d.isDigit = true) (hne : digits ≠ [])
    (hfraction : fraction = [] ∨ '.' ∈ fraction) : natural? (digits ++ fraction) =
      if '.' ∈ digits ++ fraction ∨ maxDigits < (figures (digits ++ fraction)).length then none
      else some (Nat.ofDigitChars 10 (figures (digits ++ fraction)) 0) := by
  rcases hfraction with rfl | hpoint
  · have hpoint : '.' ∉ digits := List.count_eq_zero.mp (Lexeme.count_point hdigits)
    have hlimit : ('.' ∈ digits ∨ maxDigits < digits.length) ↔ ¬digits.length ≤ maxDigits := by
      rw [or_iff_right hpoint, not_le]
    rw [List.append_nil, figures_of_isDigit hdigits, natural?_of_isDigit hdigits hne]
    simp only [hlimit, ite_not]
  · have hmem : '.' ∈ digits ++ fraction := List.mem_append_right digits hpoint
    rw [natural?_eq_none_of_mem hmem rfl (by decide), if_pos (.inl hmem)]

lemma read?_of_isNumber {s : String} (h : Lexeme.IsNumber s.toList) :
    read? s = if '.' ∈ s.toList ∨ maxDigits < (figures s.toList).length then none
      else some (signed s.toList) := by
  obtain ⟨sign, digits, fraction, hs, hsign, hne, hdigits, hfraction⟩ := h
  have hpoint : fraction = [] ∨ '.' ∈ fraction := by
    rcases hfraction with rfl | ⟨further, rfl, -⟩
    · exact .inl rfl
    · exact .inr (by simp)
  have hpadding : ∀ c ∈ digits ++ fraction, isPadding c = false := by
    intro c hc
    rcases Lexeme.digit_or_point hdigits hfraction c hc with hdigit | rfl
    · exact isPadding_of_isDigit hdigit
    · rfl
  have hhead : ∀ c ∈ (digits ++ fraction).head?, c.isDigit = true := by
    rw [List.head?_append_of_ne_nil digits hne]
    exact fun c hc => hdigits c (List.mem_of_mem_head? hc)
  have hread := natural?_of_fraction hdigits hne hpoint
  rcases hsign with rfl | rfl
  · rw [List.nil_append] at hs
    have hplain : (digits ++ fraction).head? ≠ some '-' :=
      fun hminus => absurd (hhead '-' hminus) (by decide)
    rw [read?_unsigned (hs ▸ hpadding) (hs ▸ hhead), hs, hread, signed, if_neg hplain]
    split <;> rfl
  · rw [List.singleton_append] at hs
    have hfigures : figures ('-' :: (digits ++ fraction)) = figures (digits ++ fraction) := rfl
    have hmem : '.' ∈ '-' :: (digits ++ fraction) ↔ '.' ∈ digits ++ fraction := by simp
    rw [read?_minus hs hpadding, hs, hread, signed, hfigures, if_pos List.head?_cons]
    simp only [hmem]
    split <;> rfl

end Decimal

namespace Lexeme

variable {c : Char} {tail rest : List Char}

lemma isNumber_of_reach {kind : TokenKind} (h : reach c (tail ++ rest) = (some kind, tail))
    (hkind : kind = .number ∨ kind = .targetId) : IsNumber (kind.textOf c tail).toList := by
  have hreaches := reaches_of_reach h
  generalize hcs : tail ++ rest = cs at hreaches
  cases hreaches with
  | number hc =>
    simp only [TokenKind.textOf, String.toList_ofList]
    exact (longest_number hc hcs).1
  | targetId hdigit =>
    simp only [TokenKind.textOf, String.toList_ofList]
    exact ⟨[], digitRun cs, [], by simp, .inl rfl, digitRun_ne_nil hdigit,
      fun d hd => List.mem_takeWhile_imp hd, .inl rfl⟩
  | _ => simp at hkind

end Lexeme

namespace Token

variable {t : Token} {line : ℤ} {s : String}

lemma isNumber_of_mem_ofLine (ht : t ∈ ofLine line s) (hkind : t.kind = .number ∨ t.kind = .targetId) :
    Lexeme.IsNumber t.text.toList := by
  obtain ⟨before, c, tail, rest, kind, -, hreach, rfl⟩ := exists_reach_of_mem_ofLine ht
  exact Lexeme.isNumber_of_reach hreach hkind

lemma signed_nonneg (ht : t ∈ ofLine line s) (hkind : t.kind = .targetId) :
    0 ≤ Decimal.signed t.text.toList := by
  obtain ⟨-, hdigits⟩ := Lexed.digits ⟨line, s, ht⟩ hkind
  have hplain : t.text.toList.head? ≠ some '-' :=
    fun hminus => absurd (hdigits '-' (List.mem_of_mem_head? hminus)) (by decide)
  rw [Decimal.signed, if_neg hplain]
  exact Int.natCast_nonneg _

end Token

structure ValueLine where
  indent : List Char
  name : List Char
  gap : List Char
  trail : List Char
  isName : Lexeme.IsName name
  gap_ne_nil : gap ≠ []
  blank : ∀ c ∈ indent ++ (gap ++ trail), Text.isBlank c = true

namespace ValueLine

variable (l : ValueLine)

def text (value : List Char) : String :=
  String.ofList (l.indent ++ (l.name ++ (l.gap ++ (value ++ l.trail))))

def word (line : ℤ) : Token :=
  ⟨.keyword, String.ofList l.name, line, l.indent.length⟩

def column : ℕ :=
  l.indent.length + l.name.length + l.gap.length

lemma indent_blank : ∀ c ∈ l.indent, Text.isBlank c = true :=
  (List.forall_mem_append.mp l.blank).1

lemma gap_blank : ∀ c ∈ l.gap, Text.isBlank c = true :=
  (List.forall_mem_append.mp (List.forall_mem_append.mp l.blank).2).1

lemma trail_blank : ∀ c ∈ l.trail, Text.isBlank c = true :=
  (List.forall_mem_append.mp (List.forall_mem_append.mp l.blank).2).2

lemma name_stands : Word.Stands ⟨.keyword, String.ofList l.name, l.name⟩ := by
  obtain ⟨⟨c, hc, hletter⟩, hword⟩ := l.isName
  obtain ⟨cs, hname⟩ := List.head?_eq_some_iff.mp hc
  rw [hname] at hword ⊢
  exact Word.name_stands (by simpa using hletter) (List.forall_mem_cons.mp hword).2

lemma isComment_text (value : List Char) : Token.isComment (l.text value).toList = false := by
  obtain ⟨⟨c, hc, hletter⟩, -⟩ := l.isName
  obtain ⟨cs, hname⟩ := List.head?_eq_some_iff.mp hc
  have hblank : Text.isBlank c = false := by
    by_contra hblank
    exact Lexeme.not_idle_of_letter hletter (Lexeme.idle_of_isBlank (by simpa using hblank))
  rw [text, String.toList_ofList, Token.isComment_blanks l.indent_blank, hname, List.cons_append,
    ← Bool.not_eq_true, Token.isComment_cons hblank]
  rintro (rfl | ⟨rfl, -⟩) <;> exact absurd hletter (by decide)

lemma ofLine_text {w : Word} (hw : w.Stands) (line : ℤ) :
    Token.ofLine line (l.text w.chars) = [l.word line, ⟨w.kind, w.text, line, l.column⟩] := by
  have hgap : Lexeme.Ends (l.gap ++ (w.chars ++ l.trail)) := by
    intro c hc
    rw [List.head?_append_of_ne_nil l.gap l.gap_ne_nil] at hc
    exact l.gap_blank c (List.mem_of_mem_head? hc)
  have htrail : Lexeme.Ends l.trail := fun c hc => l.trail_blank c (List.mem_of_mem_head? hc)
  have hrest (column : ℕ) : Token.ofChars line column l.trail = [] := by
    rw [← List.append_nil l.trail, Token.ofChars_blanks l.trail_blank, Token.ofChars_nil]
  rw [Token.ofLine, l.isComment_text, if_neg (by simp), text, String.toList_ofList,
    Token.ofChars_blanks l.indent_blank, Word.ofChars_word l.name_stands _ _ hgap,
    Token.ofChars_blanks l.gap_blank, Word.ofChars_word hw _ _ htrail, hrest, Nat.zero_add]
  rfl

end ValueLine

namespace Walk

open Decimal

lemma on_lineTokens_valueLine (l : ValueLine) {w : Word} (hw : w.Stands) (line : ℤ) (c : Cursor) :
    (lineTokens line (l.text w.chars)).on c =
      (.ok [l.word line, ⟨w.kind, w.text, line, l.column⟩], c) := by
  rw [lineTokens_eq, on_pure, l.ofLine_text hw]

/-- A number behind a word is read as it is written, and so is a target id. And of every number and
target id on a line, that which its digits and sign write is read, unless it has a point or more
digits than are read. -/
theorem numbers_read_as_written (c : Cursor) :
    (∀ (l : ValueLine) (line n : ℤ), isShort n = true →
      (lineTokens line (l.text (chars n))).on c =
        (.ok [l.word line, ⟨.number, text n, line, l.column⟩], c) ∧
      (0 ≤ n → (lineTokens line (l.text ('#' :: chars n))).on c =
        (.ok [l.word line, ⟨.targetId, text n, line, l.column⟩], c)) ∧
      (toInt? (text n)).on c = (.ok (some n), c)) ∧
    ∀ (line : ℤ) (s : String), ∃ ts, (lineTokens line s).on c = (.ok ts, c) ∧
      ∀ t ∈ ts, t.kind = .number ∨ t.kind = .targetId → ∃ result,
        (toInt? t.text).on c = (.ok result, c) ∧
        (result = none ↔ '.' ∈ t.text.toList ∨ maxDigits < (figures t.text.toList).length) ∧
        (∀ n ∈ result, n = signed t.text.toList) ∧
        (t.kind = .targetId → ∀ n ∈ result, 0 ≤ n) := by
  refine ⟨fun l line n hshort => ⟨?_, fun hn => ?_, ?_⟩, fun line s => ?_⟩
  · exact on_lineTokens_valueLine l (Word.number_stands n) line c
  · exact on_lineTokens_valueLine l (Word.target_stands hn) line c
  · rw [toInt?_eq, read?_text hshort, on_pure]
  · refine ⟨Token.ofLine line s, by rw [lineTokens_eq, on_pure], fun t ht hkind => ?_⟩
    have hread := read?_of_isNumber (Token.isNumber_of_mem_ofLine ht hkind)
    refine ⟨read? t.text, by rw [toInt?_eq, on_pure], ?_, fun n hn => ?_, fun htarget n hn => ?_⟩
    · rw [hread]
      split
      · next h => exact iff_of_true rfl h
      · next h => exact iff_of_false (by simp) h
    · rw [hread] at hn
      split at hn
      · simp at hn
      · exact (Option.some.inj hn).symm
    · rw [hread] at hn
      split at hn
      · simp at hn
      · exact Option.some.inj hn ▸ Token.signed_nonneg ht htarget

def sized : ValueLine where
  indent := [' ']
  name := "größe".toList
  gap := ['\t', ' ']
  trail := []
  isName := ⟨⟨'g', rfl, .inl rfl⟩, List.all_eq_true.mp (by decide +kernel)⟩
  gap_ne_nil := by simp
  blank := List.all_eq_true.mp rfl

theorem numbers_read_as_written_sized :
    isShort (-70) = true ∧ (lineTokens 2 " größe\t -70").on (.ofTokens []) =
      (.ok [⟨.keyword, "größe", 2, 1⟩, ⟨.number, "-70", 2, 8⟩], .ofTokens []) ∧
    isShort 70 = true ∧ (0 : ℤ) ≤ 70 ∧ (lineTokens 2 " größe\t #70").on (.ofTokens []) =
      (.ok [⟨.keyword, "größe", 2, 1⟩, ⟨.targetId, "70", 2, 8⟩], .ofTokens []) ∧
    (toInt? "70").on (.ofTokens []) = (.ok (some 70), .ofTokens []) ∧
    ∃ ts, (lineTokens 1 "scroll -007 1. #08").on (.ofTokens []) = (.ok ts, .ofTokens []) ∧
      ⟨.number, "-007", 1, 7⟩ ∈ ts ∧
      (toInt? "-007").on (.ofTokens []) = (.ok (some (-7)), .ofTokens []) ∧
      ⟨.number, "1.", 1, 12⟩ ∈ ts ∧ (toInt? "1.").on (.ofTokens []) = (.ok none, .ofTokens []) := by
  obtain ⟨hforward, hback⟩ := numbers_read_as_written (.ofTokens [])
  have hminus : isShort (-70) = true := by decide
  have hplus : isShort 70 = true := by decide
  have hpos : (0 : ℤ) ≤ 70 := by decide
  obtain ⟨hnumber, -, -⟩ := hforward sized 2 (-70) hminus
  obtain ⟨-, htarget, hinteger⟩ := hforward sized 2 70 hplus
  obtain ⟨ts, htokens, hvalues⟩ := hback 1 "scroll -007 1. #08"
  obtain rfl := ofLine_of_lineTokens htokens
  have hzeros : ⟨.number, "-007", 1, 7⟩ ∈ Token.ofLine 1 "scroll -007 1. #08" := by decide +kernel
  have hpoint : ⟨.number, "1.", 1, 12⟩ ∈ Token.ofLine 1 "scroll -007 1. #08" := by decide +kernel
  obtain ⟨seven, hseven, hsome, hsigned, -⟩ := hvalues _ hzeros (.inl rfl)
  obtain ⟨none', hnone', hnone, -⟩ := hvalues _ hpoint (.inl rfl)
  have hshort : ¬('.' ∈ "-007".toList ∨ maxDigits < (figures "-007".toList).length) := by decide
  obtain ⟨n, rfl⟩ := Option.ne_none_iff_exists'.mp (mt hsome.mp hshort)
  obtain rfl := hsigned n rfl
  rw [hnone.mpr (.inl (by decide))] at hnone'
  exact ⟨hminus, hnumber, hplus, hpos, htarget hpos, hinteger, _, htokens, hzeros, hseven, hpoint,
    hnone'⟩

end Walk

end ScenarioScript
