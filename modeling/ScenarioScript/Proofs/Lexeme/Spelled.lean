import ScenarioScript.Proofs.Lexeme.Word
import ScenarioScript.Proofs.Decimal

namespace ScenarioScript

namespace Keyword

lemma mem_all (k : Keyword) : k ∈ all := by
  cases k <;> decide

lemma ofText?_spelling_of_mem : ∀ k ∈ all, ofText? k.spelling = some k := by
  decide +kernel

lemma ofText?_spelling (k : Keyword) : ofText? k.spelling = some k :=
  ofText?_spelling_of_mem k (mem_all k)

lemma spelling_of_mem : ∀ k ∈ all, (k.spelling.toList.head?.any Text.isLetter &&
    k.spelling.toList.tail.all Lexeme.isWordChar) = true := by
  decide +kernel

lemma spelling_letters (k : Keyword) : ∃ c cs, k.spelling.toList = c :: cs ∧ Text.isLetter c = true ∧
    ∀ d ∈ cs, Lexeme.isWordChar d = true := by
  have h := spelling_of_mem k (mem_all k)
  rw [Bool.and_eq_true, List.all_eq_true] at h
  cases hs : k.spelling.toList with
  | nil => simp [hs] at h
  | cons c cs =>
    rw [hs] at h
    exact ⟨c, cs, rfl, h.1, h.2⟩

end Keyword

namespace Lexeme

def escapeChar : Char → List Char
  | '\n' => ['\\', 'n']
  | '\t' => ['\\', 't']
  | '"' => ['\\', '"']
  | '\\' => ['\\', '\\']
  | c => [c]

def escaped (cs : List Char) : List Char :=
  cs.flatMap escapeChar

lemma escapeChar_plain {c : Char} (hc : c ∉ ['\n', '\t', '"', '\\']) : escapeChar c = [c] := by
  simp only [List.mem_cons, List.not_mem_nil, or_false, not_or] at hc
  rw [escapeChar] <;> simp_all

lemma stringTail_plain {c : Char} (hq : c ≠ '"') (hb : c ≠ '\\') (cs : List Char) :
    stringTail (c :: cs) = c :: stringTail cs := by
  rw [stringTail] <;> simp_all

lemma stringText_plain {c : Char} (hq : c ≠ '"') (hb : c ≠ '\\') (cs : List Char) :
    stringText (c :: cs) = c :: stringText cs := by
  rw [stringText] <;> simp_all

lemma stringTail_escapeChar (c : Char) (rest : List Char) :
    stringTail (escapeChar c ++ rest) = escapeChar c ++ stringTail rest := by
  by_cases hc : c ∈ ['\n', '\t', '"', '\\']
  · simp only [List.mem_cons, List.not_mem_nil, or_false] at hc
    rcases hc with rfl | rfl | rfl | rfl <;> rfl
  · rw [escapeChar_plain hc]
    exact stringTail_plain (by rintro rfl; simp at hc) (by rintro rfl; simp at hc) rest

lemma stringText_escapeChar (c : Char) (rest : List Char) :
    stringText (escapeChar c ++ rest) = c :: stringText rest := by
  by_cases hc : c ∈ ['\n', '\t', '"', '\\']
  · simp only [List.mem_cons, List.not_mem_nil, or_false] at hc
    rcases hc with rfl | rfl | rfl | rfl <;> rfl
  · rw [escapeChar_plain hc]
    exact stringText_plain (by rintro rfl; simp at hc) (by rintro rfl; simp at hc) rest

lemma stringTail_escaped (cs rest : List Char) :
    stringTail (escaped cs ++ '"' :: rest) = escaped cs ++ ['"'] := by
  induction cs with
  | nil => rfl
  | cons c cs ih =>
    rw [escaped, List.flatMap_cons, ← escaped, List.append_assoc, stringTail_escapeChar, ih,
      List.append_assoc]

lemma stringText_escaped (cs rest : List Char) :
    stringText (escaped cs ++ '"' :: rest) = cs := by
  induction cs with
  | nil => rfl
  | cons c cs ih =>
    rw [escaped, List.flatMap_cons, ← escaped, List.append_assoc, stringText_escapeChar, ih]

lemma arrayTail_plain {cs : List Char} (h : ∀ c ∈ cs, c ≠ '[' ∧ c ≠ ']') (rest : List Char) :
    arrayTail 0 (cs ++ ']' :: rest) = cs ++ [']'] := by
  induction cs with
  | nil => rfl
  | cons c cs ih =>
    obtain ⟨ho, hc⟩ := h c (by simp)
    have ih' := ih (fun d hd => h d (by simp [hd]))
    rw [List.cons_append, arrayTail, ih', List.cons_append]
    · exact ho
    · exact hc

end Lexeme

namespace Word

def keyword (k : Keyword) : Word :=
  ⟨.keyword, k.spelling, k.spelling.toList⟩

def quoted (s : String) : Word :=
  ⟨.string, s, '"' :: (Lexeme.escaped s.toList ++ ['"'])⟩

def number (n : ℤ) : Word :=
  ⟨.number, Decimal.text n, Decimal.chars n⟩

def target (n : ℤ) : Word :=
  ⟨.targetId, Decimal.text n, '#' :: Decimal.chars n⟩

def tagChars (tag : String) : List Char :=
  '"' :: (tag.toList ++ ['"'])

def tagsChars : List String → List Char
  | [] => []
  | t :: ts => tagChars t ++ ts.flatMap fun u => ',' :: ' ' :: tagChars u

def tags (tags : List String) : Word :=
  ⟨.array, String.ofList ('[' :: (tagsChars tags ++ [']'])), '[' :: (tagsChars tags ++ [']'])⟩

def opening : Word :=
  ⟨.braceOpen, "\x7b", ['{']⟩

def closing : Word :=
  ⟨.braceClose, "\x7d", ['}']⟩

lemma name_stands {c : Char} {cs : List Char} (hletter : (Text.isLetter c || c = '_') = true)
    (hword : ∀ d ∈ cs, Lexeme.isWordChar d = true) :
    Stands ⟨.keyword, String.ofList (c :: cs), c :: cs⟩ := by
  refine ⟨c, cs, rfl, rfl, fun rest hr => ?_⟩
  rw [Lexeme.reach_letter hletter, Lexeme.wordTail_ends hword hr]

lemma keyword_stands (k : Keyword) : (keyword k).Stands := by
  obtain ⟨c, cs, hk, hl, hw⟩ := k.spelling_letters
  have hname : Stands ⟨.keyword, String.ofList (c :: cs), c :: cs⟩ := name_stands (by simp [hl]) hw
  rw [← hk, String.ofList_toList] at hname
  exact hname

lemma quoted_stands (s : String) : (quoted s).Stands := by
  refine ⟨'"', Lexeme.escaped s.toList ++ ['"'], rfl, ?_, fun rest _ => ?_⟩
  · simp only [quoted, TokenKind.textOf, Lexeme.stringText_escaped, String.ofList_toList]
  · rw [Lexeme.reach_string, List.append_assoc, List.singleton_append, Lexeme.stringTail_escaped,
      quoted]

lemma startsWithDigit_digitChars (n : ℕ) (rest : List Char) :
    Lexeme.startsWithDigit (Decimal.digitChars n ++ rest) = true := by
  cases h : Decimal.digitChars n with
  | nil => exact (Decimal.digitChars_ne_nil n h).elim
  | cons c cs => exact Decimal.isDigit_of_mem_digitChars (n := n) (by simp [h])

lemma number_stands (n : ℤ) : (number n).Stands := by
  cases n with
  | ofNat n =>
    obtain ⟨c, cs, hc⟩ := List.exists_cons_of_ne_nil (Decimal.digitChars_ne_nil n)
    have hd : ∀ d ∈ c :: cs, d.isDigit = true := fun d hd =>
      Decimal.isDigit_of_mem_digitChars (n := n) (hc ▸ hd)
    refine ⟨c, cs, hc, ?_, fun rest hr => ?_⟩
    · simp only [number, TokenKind.textOf, Decimal.text, Decimal.chars, hc]
    · rw [Lexeme.reach_digit (hd c (by simp)),
        Lexeme.numberTail_ends (fun d h => hd d (by simp [h])) hr, number]
  | negSucc n =>
    refine ⟨'-', Decimal.digitChars (n + 1), rfl, rfl, fun rest hr => ?_⟩
    rw [Lexeme.reach_minus (startsWithDigit_digitChars _ _),
      Lexeme.numberTail_ends (fun _ => Decimal.isDigit_of_mem_digitChars) hr, number]

lemma target_stands {n : ℤ} (hn : 0 ≤ n) : (target n).Stands := by
  obtain ⟨n, rfl⟩ := Int.eq_ofNat_of_zero_le hn
  refine ⟨'#', Decimal.digitChars n, rfl, rfl, fun rest hr => ?_⟩
  rw [Lexeme.reach_target (startsWithDigit_digitChars _ _),
    Lexeme.digitRun_ends (fun _ => Decimal.isDigit_of_mem_digitChars) hr, target]

lemma mem_tagsChars {ts : List String} {c : Char} (hc : c ∈ tagsChars ts) :
    c ∈ [',', ' ', '"'] ∨ ∃ t ∈ ts, c ∈ t.toList := by
  cases ts with
  | nil => simp [tagsChars] at hc
  | cons t ts =>
    simp only [tagsChars, tagChars, List.mem_append, List.mem_cons, List.mem_flatMap,
      List.not_mem_nil, or_false] at hc ⊢
    grind

lemma tags_stands {ts : List String} (h : ∀ t ∈ ts, ∀ c ∈ t.toList, c ≠ '[' ∧ c ≠ ']') :
    (tags ts).Stands := by
  refine ⟨'[', tagsChars ts ++ [']'], rfl, rfl, fun rest _ => ?_⟩
  have hp : ∀ c ∈ tagsChars ts, c ≠ '[' ∧ c ≠ ']' := by
    intro c hc
    rcases mem_tagsChars hc with hc | ⟨t, ht, hc⟩
    · simp only [List.mem_cons, List.not_mem_nil, or_false] at hc
      rcases hc with rfl | rfl | rfl <;> decide
    · exact h t ht c hc
  rw [Lexeme.reach_array, List.append_assoc, List.singleton_append, Lexeme.arrayTail_plain hp, tags]

lemma opening_stands : opening.Stands :=
  ⟨_, [], rfl, by decide, fun rest _ => Lexeme.reach_open rest⟩

lemma closing_stands : closing.Stands :=
  ⟨_, [], rfl, by decide, fun rest _ => Lexeme.reach_close rest⟩

end Word

end ScenarioScript
