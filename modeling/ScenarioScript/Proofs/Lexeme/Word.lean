import Mathlib.Data.List.TakeWhile
import ScenarioScript.Lexeme
import ScenarioScript.Decimal

/-! Words: lexemes as they are written. A word stands on its own if it is read back as it is up to
the next blank, whatever follows. -/

namespace ScenarioScript

namespace Text

def blankCodes : List ℕ :=
  List.range' 9 5 ++ List.range' 28 5 ++ [0x85, 0xA0, 0x1680] ++ List.range' 0x2000 11 ++
    [0x2028, 0x2029, 0x202F, 0x205F, 0x3000]

lemma toNat_mem_blankCodes {c : Char} (h : isBlank c = true) : c.toNat ∈ blankCodes := by
  simp only [isBlank, Bool.or_eq_true, Bool.and_eq_true, decide_eq_true_eq] at h
  simp only [blankCodes, List.mem_append, List.mem_range'_1, List.mem_cons, List.not_mem_nil, or_false]
  omega

lemma trimRight_cons {c : Char} (hc : isBlank c = false) (cs : List Char) :
    trimRight (c :: cs) = c :: trimRight cs := by
  rw [trimRight, List.reverse_cons, List.dropWhile_append]
  split
  · next hnil =>
    have hcs : cs.reverse.dropWhile isBlank = [] := by simpa using hnil
    simp [trimRight, hcs, hc]
  · rw [List.reverse_append, trimRight]
    rfl

end Text

namespace Lexeme

def Ends (rest : List Char) : Prop :=
  ∀ c ∈ rest.head?, Text.isBlank c = true

lemma ends_nil : Ends [] := by
  simp [Ends]

lemma ends_space (rest : List Char) : Ends (' ' :: rest) := by
  rintro c ⟨⟩
  rfl

lemma isWordChar_blankCodes : ∀ n ∈ Text.blankCodes, isWordChar (Char.ofNat n) = false := by
  decide +kernel

lemma isWordChar_of_isBlank {c : Char} (h : Text.isBlank c = true) : isWordChar c = false := by
  simpa using isWordChar_blankCodes c.toNat (Text.toNat_mem_blankCodes h)

lemma isDigit_of_isBlank {c : Char} (h : Text.isBlank c = true) : c.isDigit = false := by
  by_contra hd
  have hn := Char.isDigit_iff_toNat.mp (by simpa using hd)
  simp only [Char.reduceToNat] at hn
  simp only [Text.isBlank, Bool.or_eq_true, Bool.and_eq_true, decide_eq_true_eq] at h
  omega

lemma takeWhile_ends {p : Char → Bool} {cs rest : List Char} (hp : ∀ c ∈ cs, p c = true)
    (hb : ∀ c, Text.isBlank c = true → p c = false) (hr : Ends rest) :
    (cs ++ rest).takeWhile p = cs ∧ (cs ++ rest).dropWhile p = rest := by
  rw [List.takeWhile_append_of_pos hp, List.dropWhile_append_of_pos hp]
  cases rest with
  | nil => simp
  | cons c rest => simp [hb c (hr c rfl)]

lemma wordTail_ends {cs rest : List Char} (h : ∀ c ∈ cs, isWordChar c = true) (hr : Ends rest) :
    wordTail (cs ++ rest) = cs :=
  (takeWhile_ends h (fun _ => isWordChar_of_isBlank) hr).1

lemma digitRun_ends {cs rest : List Char} (h : ∀ c ∈ cs, c.isDigit = true) (hr : Ends rest) :
    digitRun (cs ++ rest) = cs :=
  (takeWhile_ends h (fun _ => isDigit_of_isBlank) hr).1

lemma numberTail_ends {cs rest : List Char} (h : ∀ c ∈ cs, c.isDigit = true) (hr : Ends rest) :
    numberTail (cs ++ rest) = cs := by
  rw [numberTail, (takeWhile_ends h (fun _ => isDigit_of_isBlank) hr).2]
  split
  · next rest' => exact absurd (hr '.' rfl) (by decide)
  · exact digitRun_ends h hr

lemma isBlank_of_isDigit {c : Char} (h : c.isDigit = true) : Text.isBlank c = false := by
  by_contra hb
  simp [isDigit_of_isBlank (by simpa using hb)] at h

lemma reach_string (cs : List Char) : reach '"' cs = (some .string, stringTail cs) := by
  rw [reach, if_neg (by decide), if_pos rfl]

lemma reach_target {cs : List Char} (h : startsWithDigit cs = true) :
    reach '#' cs = (some .targetId, digitRun cs) := by
  rw [reach, if_neg (by decide), if_neg (by decide), if_pos (by simp [h])]

lemma reach_array (cs : List Char) : reach '[' cs = (some .array, arrayTail 0 cs) := by
  rw [reach, if_neg (by decide), if_neg (by decide), if_neg (by simp), if_pos rfl]

lemma reach_open (cs : List Char) : reach '{' cs = (some .braceOpen, []) := by
  rw [reach, if_neg (by decide), if_neg (by decide), if_neg (by simp), if_neg (by decide), if_pos rfl]

lemma reach_close (cs : List Char) : reach '}' cs = (some .braceClose, []) := by
  rw [reach, if_neg (by decide), if_neg (by decide), if_neg (by simp), if_neg (by decide),
    if_neg (by decide), if_pos rfl]

lemma reach_unmarked {c : Char} (hb : Text.isBlank c = false)
    (hc : c ∉ ['"', '#', '[', '{', '}']) (cs : List Char) :
    reach c cs =
      if c.isDigit || (c = '-' && startsWithDigit cs) then (some .number, numberTail cs)
      else if Text.isLetter c || c = '_' then (some .keyword, wordTail cs)
      else (none, []) := by
  simp only [List.mem_cons, List.not_mem_nil, or_false, not_or] at hc
  simp [reach, hb, hc]

lemma reach_digit {c : Char} (h : c.isDigit = true) (cs : List Char) :
    reach c cs = (some .number, numberTail cs) := by
  rw [reach_unmarked (isBlank_of_isDigit h), if_pos (by simp [h])]
  intro hc
  simp only [List.mem_cons, List.not_mem_nil, or_false] at hc
  rcases hc with rfl | rfl | rfl | rfl | rfl <;> exact absurd h (by decide)

lemma reach_minus {cs : List Char} (h : startsWithDigit cs = true) :
    reach '-' cs = (some .number, numberTail cs) := by
  rw [reach_unmarked (by decide) (by decide), if_pos (by simp [h])]

lemma isLetter_of_isDigit {c : Char} (h : c.isDigit = true) : Text.isLetter c = false := by
  have hn := Char.isDigit_iff_toNat.mp h
  simp only [Char.reduceToNat] at hn
  have hu : ¬ 'A'.val ≤ c.val := by
    intro h
    have h' : 65 ≤ c.toNat := UInt32.le_iff_toNat_le.mp h
    omega
  have hl : ¬ 'a'.val ≤ c.val := by
    intro h
    have h' : 97 ≤ c.toNat := UInt32.le_iff_toNat_le.mp h
    omega
  have ha : c.isAlpha = false :=
    Bool.or_eq_false_iff.mpr
      ⟨decide_eq_false fun h => hu h.1, Bool.and_eq_false_iff.mpr (.inl (decide_eq_false hl))⟩
  rw [Text.isLetter, if_pos (by omega), ha]

lemma reach_letter {c : Char} (h : (Text.isLetter c || c = '_') = true) (cs : List Char) :
    reach c cs = (some .keyword, wordTail cs) := by
  have hw : isWordChar c = true := by
    rw [Bool.or_eq_true] at h
    rcases h with h | h <;> simp [isWordChar, h]
  have hb : Text.isBlank c = false := by
    by_contra hb
    simp [isWordChar_of_isBlank (by simpa using hb)] at hw
  have hd : c.isDigit = false ∧ c ∉ ['"', '#', '[', '{', '}', '-'] := by
    constructor
    · by_contra hd
      have hd' : c.isDigit = true := by simpa using hd
      obtain rfl : c = '_' := by simpa [isLetter_of_isDigit hd'] using h
      exact absurd hd' (by decide)
    · intro hc
      simp only [List.mem_cons, List.not_mem_nil, or_false] at hc
      rcases hc with rfl | rfl | rfl | rfl | rfl | rfl <;> exact absurd h (by decide)
  rw [reach_unmarked hb (by simp_all), if_neg (by simp_all), if_pos h]

end Lexeme

namespace Token

lemma ofChars_blanks {ws : List Char} (h : ∀ c ∈ ws, Text.isBlank c = true) (line : ℤ) (column : ℕ)
    (cs : List Char) : ofChars line column (ws ++ cs) = ofChars line (column + ws.length) cs := by
  induction ws generalizing column with
  | nil => rfl
  | cons c ws ih =>
    obtain ⟨hc, hws⟩ := List.forall_mem_cons.mp h
    have hreach : Lexeme.reach c (ws ++ cs) = (none, []) := by rw [Lexeme.reach, if_pos hc]
    have hcolumn : column + (c :: ws).length = column + 1 + ws.length := by
      rw [List.length_cons]
      omega
    rw [List.cons_append, ofChars_cons, hreach, hcolumn]
    exact ih hws (column + 1)

lemma isComment_blanks {ws : List Char} (h : ∀ c ∈ ws, Text.isBlank c = true) (cs : List Char) :
    isComment (ws ++ cs) = isComment cs := by
  have htrim : Text.trim (ws ++ cs) = Text.trim cs := by
    rw [Text.trim, Text.trimLeft, List.dropWhile_append_of_pos h, Text.trim, Text.trimLeft]
  rw [isComment, htrim, isComment]

end Token

structure Word where
  kind : TokenKind
  text : String
  chars : List Char

namespace Word

def Stands (w : Word) : Prop :=
  ∃ c cs, w.chars = c :: cs ∧ w.kind.textOf c cs = w.text ∧
    ∀ rest, Lexeme.Ends rest → Lexeme.reach c (cs ++ rest) = (some w.kind, cs)

def StandsLast (w : Word) : Prop :=
  ∃ c cs, w.chars = c :: cs ∧ w.kind.textOf c cs = w.text ∧ Lexeme.reach c cs = (some w.kind, cs)

lemma Stands.last {w : Word} (hw : w.Stands) : w.StandsLast := by
  obtain ⟨c, cs, hc, ht, hs⟩ := hw
  have hreach := hs [] Lexeme.ends_nil
  rw [List.append_nil] at hreach
  exact ⟨c, cs, hc, ht, hreach⟩

/-- Words that may share a line: each stands on its own, but for the last, which may need the end of
the line. -/
inductive Aligned : List Word → Prop
  | nil : Aligned []
  | last {w : Word} (hw : w.StandsLast) : Aligned [w]
  | cons {w : Word} {ws : List Word} (hw : w.Stands) (hws : Aligned ws) : Aligned (w :: ws)

lemma aligned_of_stands {ws : List Word} (h : ∀ w ∈ ws, w.Stands) : Aligned ws := by
  induction ws with
  | nil => exact .nil
  | cons w ws ih =>
    obtain ⟨hw, hws⟩ := List.forall_mem_cons.mp h
    exact .cons hw (ih hws)

lemma Aligned.head {w : Word} {ws : List Word} (h : Aligned (w :: ws)) : w.StandsLast := by
  cases h with
  | last hw => exact hw
  | cons hw _ => exact hw.last

def separated (ws : List Word) : List Char :=
  ws.flatMap fun w => ' ' :: w.chars

def line (indent : ℕ) : List Word → List Char
  | [] => []
  | w :: ws => List.replicate indent ' ' ++ (w.chars ++ separated ws)

def place (line : ℤ) (column : ℕ) : List Word → List Token
  | [] => []
  | w :: ws => ⟨w.kind, w.text, line, column⟩ :: place line (column + w.chars.length + 1) ws

lemma ends_separated (ws : List Word) : Lexeme.Ends (separated ws) := by
  cases ws with
  | nil => exact Lexeme.ends_nil
  | cons w ws => exact Lexeme.ends_space _

lemma ofChars_space (line : ℤ) (column : ℕ) (cs : List Char) :
    Token.ofChars line column (' ' :: cs) = Token.ofChars line (column + 1) cs :=
  Token.ofChars_blanks (List.forall_mem_singleton.mpr rfl) line column cs

lemma ofChars_word {w : Word} (hw : w.Stands) (line : ℤ) (column : ℕ) {rest : List Char}
    (hr : Lexeme.Ends rest) :
    Token.ofChars line column (w.chars ++ rest) =
      ⟨w.kind, w.text, line, column⟩ :: Token.ofChars line (column + w.chars.length) rest := by
  obtain ⟨c, cs, hc, ht, hs⟩ := hw
  rw [hc, List.cons_append, Token.ofChars_cons]
  simp only [hs rest hr, ht, List.drop_left, List.length_cons]
  congr 2
  omega

lemma ofChars_last {w : Word} (hw : w.StandsLast) (line : ℤ) (column : ℕ) :
    Token.ofChars line column w.chars = [⟨w.kind, w.text, line, column⟩] := by
  obtain ⟨c, cs, hc, ht, hreach⟩ := hw
  rw [hc, Token.ofChars_cons]
  simp only [hreach, ht, List.drop_length, Token.ofChars_nil]

lemma ofChars_aligned {w : Word} {ws : List Word} (h : Aligned (w :: ws)) (line : ℤ) (column : ℕ) :
    Token.ofChars line column (w.chars ++ separated ws) = place line column (w :: ws) := by
  induction ws generalizing w column with
  | nil =>
    rw [separated, List.flatMap_nil, List.append_nil, ofChars_last h.head, place, place]
  | cons v vs ih =>
    cases h with
    | cons hw hvs =>
      rw [ofChars_word hw line column (ends_separated (v :: vs)), separated, List.flatMap_cons,
        List.cons_append, ofChars_space, ← separated, ih hvs]
      rfl

lemma ofChars_indent (line : ℤ) (column indent : ℕ) (cs : List Char) :
    Token.ofChars line column (List.replicate indent ' ' ++ cs) =
      Token.ofChars line (column + indent) cs := by
  have hblank : ∀ c ∈ List.replicate indent ' ', Text.isBlank c = true := by
    simp +contextual [Text.isBlank]
  rw [Token.ofChars_blanks hblank, List.length_replicate]

lemma StandsLast.head {w : Word} (hw : w.StandsLast) (hk : w.kind ≠ .targetId) :
    ∃ c cs, w.chars = c :: cs ∧ Text.isBlank c = false ∧ c ≠ '#' ∧ c ≠ '/' := by
  obtain ⟨c, cs, hc, -, h⟩ := hw
  refine ⟨c, cs, hc, ?_, ?_, ?_⟩
  · by_contra hb
    rw [Lexeme.reach, if_pos (by simpa using hb)] at h
    simp at h
  · rintro rfl
    by_cases hd : Lexeme.startsWithDigit cs = true
    · rw [Lexeme.reach_target hd] at h
      exact hk (by simpa using (congrArg Prod.fst h).symm)
    · simp [Lexeme.reach, hd, Text.isBlank, Text.isLetter] at h
  · rintro rfl
    simp [Lexeme.reach, Text.isBlank, Text.isLetter] at h

lemma trim_line {c : Char} (hc : Text.isBlank c = false) (indent : ℕ) (cs : List Char) :
    ∃ ds, Text.trim (List.replicate indent ' ' ++ c :: cs) = c :: ds := by
  have hl : Text.trimLeft (List.replicate indent ' ' ++ c :: cs) = c :: cs := by
    rw [Text.trimLeft, List.dropWhile_append_of_pos (by simp +contextual [Text.isBlank])]
    simp [hc]
  exact ⟨Text.trimRight cs, by rw [Text.trim, hl, Text.trimRight_cons hc]⟩

lemma ofLine_line {w : Word} {ws : List Word} (h : Aligned (w :: ws)) (hk : w.kind ≠ .targetId)
    (n : ℤ) (indent : ℕ) :
    Token.ofLine n (String.ofList (line indent (w :: ws))) = place n indent (w :: ws) := by
  obtain ⟨c, cs, hc, hb, hh, hs⟩ := h.head.head hk
  have hcomment : Token.isComment (line indent (w :: ws)) = false := by
    obtain ⟨ds, hd⟩ := trim_line hb indent (cs ++ separated ws)
    simp only [line, hc, List.cons_append, Token.isComment, hd]
    split <;> simp_all
  rw [Token.ofLine, String.toList_ofList, hcomment, if_neg (by simp), line, ofChars_indent,
    ofChars_aligned h, Nat.zero_add]

end Word
end ScenarioScript
