import ScenarioScript.Proofs.Script.Writer
import ScenarioScript.Proofs.Text.Lines

namespace ScenarioScript

def Line.place (n : ℤ) : List Line → List Token
  | [] => []
  | l :: ls => Word.place n l.indent l.words ++ Line.place (n + 1) ls

namespace Word

def Sound (w : Word) : Prop :=
  w.Stands ∧ ∀ c ∈ w.chars, Text.isLineBreak c = false

lemma isLineBreak_of_mem_escapeChar {d c : Char} (hd : Text.isLineBreak d = true → d = '\n')
    (hc : c ∈ Lexeme.escapeChar d) : Text.isLineBreak c = false := by
  by_cases h : d ∈ ['\n', '\t', '"', '\\']
  · simp only [List.mem_cons, List.not_mem_nil, or_false] at h
    rcases h with rfl | rfl | rfl | rfl <;>
      simp only [Lexeme.escapeChar, List.mem_cons, List.not_mem_nil, or_false] at hc <;>
      rcases hc with rfl | rfl <;> rfl
  · rw [Lexeme.escapeChar_plain h] at hc
    obtain rfl : c = d := by simpa using hc
    by_contra hb
    exact h (by simp [hd (by simpa using hb)])

lemma keyword_breaks_of_mem : ∀ k ∈ Keyword.all,
    (k.spelling.toList.all fun c => !Text.isLineBreak c) = true := by
  decide +kernel

lemma keyword_sound (k : Keyword) : (keyword k).Sound :=
  ⟨keyword_stands k, fun c hc => by
    simpa using List.all_eq_true.mp (keyword_breaks_of_mem k k.mem_all) c hc⟩

lemma quoted_sound {s : String} (hs : Text.Unbroken s) : (quoted s).Sound := by
  refine ⟨quoted_stands s, fun c hc => ?_⟩
  simp only [quoted, List.mem_cons, List.mem_append, List.not_mem_nil, or_false] at hc
  rcases hc with rfl | hc | rfl
  · rfl
  · obtain ⟨d, hd, hc⟩ := List.mem_flatMap.mp hc
    exact isLineBreak_of_mem_escapeChar (hs d hd) hc
  · rfl

lemma number_sound (n : ℤ) : (number n).Sound :=
  ⟨number_stands n, fun _ => Decimal.isLineBreak_of_mem_chars⟩

lemma target_sound {n : ℤ} (hn : 0 ≤ n) : (target n).Sound := by
  refine ⟨target_stands hn, fun c hc => ?_⟩
  rcases List.mem_cons.mp hc with rfl | hc
  · rfl
  · exact Decimal.isLineBreak_of_mem_chars hc

lemma tags_sound {ts : List String}
    (h : ∀ t ∈ ts, ∀ c ∈ t.toList, c ≠ '[' ∧ c ≠ ']' ∧ Text.isLineBreak c = false) :
    (tags ts).Sound := by
  refine ⟨tags_stands fun t ht c hc => ⟨(h t ht c hc).1, (h t ht c hc).2.1⟩, fun c hc => ?_⟩
  simp only [tags, List.mem_cons, List.mem_append, List.not_mem_nil, or_false] at hc
  rcases hc with rfl | hc | rfl
  · rfl
  · rcases mem_tagsChars hc with hc | ⟨t, ht, hc⟩
    · simp only [List.mem_cons, List.not_mem_nil, or_false] at hc
      rcases hc with rfl | rfl | rfl <;> rfl
    · exact (h t ht c hc).2.2
  · rfl

lemma opening_sound : opening.Sound :=
  ⟨opening_stands, by simp [opening, Text.isLineBreak]⟩

lemma closing_sound : closing.Sound :=
  ⟨closing_stands, by simp [closing, Text.isLineBreak]⟩

end Word

namespace Line

def Sound (l : Line) : Prop :=
  (∀ w ∈ l.words, w.Sound) ∧ ∀ w ∈ l.words.head?, w.kind ≠ .targetId

lemma isLineBreak_of_mem_chars {l : Line} (hl : l.Sound) {c : Char} (hc : c ∈ l.chars) :
    Text.isLineBreak c = false := by
  obtain ⟨indent, words⟩ := l
  cases words with
  | nil => simp [Line.chars, Word.line] at hc
  | cons w ws =>
    simp only [Line.chars, Word.line, List.mem_append, List.mem_replicate, Word.separated,
      List.mem_flatMap, List.mem_cons] at hc
    rcases hc with ⟨-, rfl⟩ | hc | ⟨v, hv, rfl | hc⟩
    · rfl
    · exact (hl.1 w (by simp)).2 c hc
    · rfl
    · exact (hl.1 v (by simp [hv])).2 c hc

lemma ofLine_chars {l : Line} (hl : l.Sound) (n : ℤ) :
    Token.ofLine n (String.ofList l.chars) = Word.place n l.indent l.words := by
  obtain ⟨indent, words⟩ := l
  cases words with
  | nil => rfl
  | cons w ws =>
    have haligned := Word.aligned_of_stands fun v hv => (hl.1 v hv).1
    exact Word.ofLine_line haligned (hl.2 w rfl) n indent

lemma linesOf_chars {ls : List Line} (h : ∀ l ∈ ls, l.Sound) :
    Text.linesOf (ls.flatMap fun l => l.chars ++ ['\n']) = ls.map Line.chars := by
  induction ls with
  | nil => rfl
  | cons l ls ih =>
    rw [List.flatMap_cons, List.append_assoc, List.singleton_append,
      Text.linesOf_line fun c hc => isLineBreak_of_mem_chars (h l (by simp)) hc,
      ih fun m hm => h m (by simp [hm]), List.map_cons]

lemma ofLinesFrom_chars {ls : List Line} (h : ∀ l ∈ ls, l.Sound) (n : ℤ) :
    Token.ofLinesFrom n (ls.map fun l => String.ofList l.chars) = place n ls := by
  induction ls generalizing n with
  | nil => rfl
  | cons l ls ih =>
    rw [List.map_cons, Token.ofLinesFrom, ofLine_chars (h l (by simp)),
      ih fun m hm => h m (by simp [hm]), place]

lemma ofText_chars {ls : List Line} (h : ∀ l ∈ ls, l.Sound) :
    Token.ofText (String.ofList (ls.flatMap fun l => l.chars ++ ['\n'])) = place 1 ls := by
  rw [Token.ofText, Text.lines, String.toList_ofList, linesOf_chars h, List.map_map,
    Token.ofLines]
  exact ofLinesFrom_chars h 1

lemma place_append (n : ℤ) (ls ms : List Line) :
    place n (ls ++ ms) = place n ls ++ place (n + ls.length) ms := by
  induction ls generalizing n with
  | nil => simp [place]
  | cons l ls ih =>
    rw [List.cons_append, place, ih, place, List.append_assoc, List.length_cons]
    congr 3
    push_cast
    omega

end Line

end ScenarioScript
