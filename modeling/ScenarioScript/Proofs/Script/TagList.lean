import ScenarioScript.Proofs.Lexeme.Cover
import ScenarioScript.Proofs.Script.Openings
import ScenarioScript.Proofs.Script.Reordering
import ScenarioScript.Proofs.Tags

namespace ScenarioScript

namespace Lexeme

lemma wordTail_before {cs rest : List Char} (h : ∀ c ∈ cs, isWordChar c = true)
    (hrest : ∀ c ∈ rest.head?, isWordChar c = false) : wordTail (cs ++ rest) = cs := by
  rw [wordTail, List.takeWhile_append_of_pos h]
  cases rest with
  | nil => simp
  | cons c rest => simp [hrest c rfl]

end Lexeme

structure TagLine where
  indent : List Char
  gap : List Char
  parts : List Tags.Part
  rest : List Char
  indent_blank : ∀ c ∈ indent, Text.isBlank c = true
  gap_blank : ∀ c ∈ gap, Text.isBlank c = true
  plain : ∀ p ∈ parts, ∀ c ∈ p.entry.chars, c ∉ [',', '[', ']']

namespace TagLine

variable (l : TagLine)

def list : List Char :=
  [','].intercalate (l.parts.map Tags.Part.chars)

def text : String :=
  String.ofList (l.indent ++ ("tags".toList ++ (l.gap ++ '[' :: (l.list ++ ']' :: l.rest))))

lemma list_plain : ∀ c ∈ l.list, c ≠ '[' ∧ c ≠ ']' := by
  have hblank {c : Char} (hc : Text.isBlank c = true) : c ≠ '[' ∧ c ≠ ']' := by
    constructor <;> (rintro rfl; exact absurd hc (by decide))
  have hpart : ∀ p ∈ l.parts, ∀ c ∈ p.chars, c ≠ '[' ∧ c ≠ ']' := by
    intro p hp c hc
    rw [Tags.Part.chars, List.mem_append, List.mem_append] at hc
    rcases hc with hc | hc | hc
    · exact hblank (p.before_blank c hc)
    · have hplain := l.plain p hp c hc
      simp_all
    · exact hblank (p.after_blank c hc)
  intro c hc
  rw [list] at hc
  cases hparts : l.parts with
  | nil => simp [hparts] at hc
  | cons p ps =>
    rw [hparts, List.map_cons, Tags.intercalate_cons, List.mem_append, List.mem_flatMap] at hc
    rw [hparts] at hpart
    rcases hc with hc | ⟨e, he, hc⟩
    · exact hpart p (by simp) c hc
    · obtain ⟨q, hq, rfl⟩ := List.mem_map.mp he
      rcases List.mem_append.mp hc with hc | hc
      · simp_all
      · exact hpart q (by simp [hq]) c hc

lemma reach_word : Lexeme.reach 't' (['a', 'g', 's'] ++ (l.gap ++ '[' :: (l.list ++ ']' :: l.rest))) =
    (some .keyword, ['a', 'g', 's']) := by
  have hhead : ∀ c ∈ (l.gap ++ '[' :: (l.list ++ ']' :: l.rest)).head?, Lexeme.isWordChar c = false := by
    cases hgap : l.gap with
    | nil =>
      rintro c ⟨⟩
      decide
    | cons d ds =>
      rintro c ⟨⟩
      exact Lexeme.isWordChar_of_isBlank (l.gap_blank d (by simp [hgap]))
  rw [Lexeme.reach_letter (by decide), Lexeme.wordTail_before (List.all_eq_true.mp rfl) hhead]

lemma reach_list : Lexeme.reach '[' (l.list ++ [']'] ++ l.rest) = (some .array, l.list ++ [']']) := by
  rw [Lexeme.reach_array, List.append_assoc, List.singleton_append, Lexeme.arrayTail_plain l.list_plain]

lemma ofLine_text (n : ℤ) : ∃ column more, Token.ofLine n l.text =
    ⟨.keyword, "tags", n, l.indent.length⟩ ::
      ⟨.array, String.ofList ('[' :: (l.list ++ [']'])), n, column⟩ :: more := by
  have htext : l.text.toList =
      l.indent ++ 't' :: (['a', 'g', 's'] ++ (l.gap ++ '[' :: (l.list ++ ']' :: l.rest))) := by
    rw [text, String.toList_ofList]
    rfl
  have hcomment : Token.isComment l.text.toList = false := by
    rw [htext, Token.isComment_blanks l.indent_blank, ← Bool.not_eq_true,
      Token.isComment_cons (by decide)]
    simp
  have hword := Token.ofChars_lexeme l.reach_word n l.indent.length
  rw [Token.ofLine, hcomment, if_neg (by simp), htext, Token.ofChars_blanks l.indent_blank,
    Nat.zero_add, hword, Token.ofChars_blanks l.gap_blank, List.append_cons,
    Token.ofChars_lexeme l.reach_list]
  exact ⟨_, _, rfl⟩

end TagLine

namespace Token

lemma cons_eq_of_suffix {t u : Token} {ts us : List Token}
    (h : (t :: ts).Pairwise (·.place < ·.place)) (hsuffix : u :: us <:+ t :: ts)
    (hplace : u.place = t.place) : u :: us = t :: ts := by
  refine (List.suffix_cons_iff.mp hsuffix).resolve_right fun hbehind => ?_
  have hlt := (List.pairwise_cons.mp h).1 u (hbehind.subset (by simp))
  exact hlt.ne hplace.symm

end Token

namespace Script

variable (settings : Settings)

lemma said_readAt_tags (t : Token) (ts : List Token) :
    (Item.readAt t ts).1.filterMap (@Aspect.tags settings).said? =
      if t.is .tags then ((Item.value? .array ts).map fun v => Tags.read v.text).toList else [] := by
  cases ht : t.is .tags with
  | true =>
    rw [Item.readAt_field (Token.keyword_of_is ht) rfl, Item.setting, if_pos rfl]
    cases Item.value? .array ts <;> rfl
  | false =>
    have hk : t.keyword ≠ some .tags := by simpa [Token.is] using ht
    rw [Item.readAt]
    split <;> first
      | exact Item.filterMap_setting (fun _ => rfl) ts
      | contradiction
      | rfl

lemma said_outline_tags (ts : List Token) :
    (outline ts).filterMap (@Aspect.tags settings).said? =
      ((stations ts).filter (·.1.is .tags)).flatMap fun p =>
        ((Item.value? .array p.2).map fun v => Tags.read v.text).toList := by
  rw [outline_eq_flatMap, List.filterMap_flatMap]
  induction stations ts with
  | nil => rfl
  | cons p ps ih =>
    rw [List.flatMap_cons, ih, said_readAt_tags, List.filter_cons]
    split <;> rfl

lemma Draft.name_addAll {d : Draft} {is : List Item}
    (h : d.name ≠ "" ∨ ∃ head text, Item.name head text ∈ is ∧ text ≠ "") :
    (d.addAll settings is).name ≠ "" := by
  induction is generalizing d with
  | nil => simpa [addAll] using h
  | cons i is ih =>
    obtain ⟨fs, cs, hadd⟩ := add_eq_settle settings d i
    rw [addAll_cons, hadd]
    rcases h with hd | ⟨head, text, hmem, hne⟩
    · exact ih (.inl (by cases i <;> simp [settle, hd]))
    · rcases List.mem_cons.mp hmem with rfl | hmem
      · refine ih (.inl ?_)
        by_cases hd : d.name = "" <;> simp [settle, hd, hne]
      · exact ih (.inr ⟨head, text, hmem, hne⟩)

def tagPlaces (ts : List Token) : List (ℤ × ℕ) :=
  ((stations ts).filter (·.1.is .tags)).map fun p => (p.1.line, p.1.column)

def Named (ts : List Token) : Prop :=
  ∃ p ∈ stations ts, p.1.is .scenario = true ∧ ∃ v ∈ p.2.head?, v.kind = .string ∧ v.text ≠ ""

instance (ts : List Token) : Decidable (Named ts) :=
  inferInstanceAs (Decidable (∃ p ∈ stations ts, p.1.is .scenario = true ∧
    ∃ v ∈ p.2.head?, v.kind = .string ∧ v.text ≠ ""))

lemma value?_of_head? {kind : TokenKind} {ts : List Token} {v : Token} (hv : v ∈ ts.head?)
    (h : v.kind = kind) (hkind : kind ≠ .keyword) : Item.value? kind ts = some v := by
  obtain ⟨us, rfl⟩ := List.head?_eq_some_iff.mp hv
  have hstep : v.is .step = false := Token.is_eq_false_of_kind_ne (h ▸ hkind) _
  simp [Item.value?, h, hstep]

lemma Named.name_ne_empty {ts : List Token} (h : Named ts) :
    (Draft.empty.addAll settings (outline ts)).name ≠ "" := by
  obtain ⟨p, hp, hword, v, hv, hkind, hne⟩ := h
  refine Draft.name_addAll settings (.inr ⟨p.1, v.text, ?_, hne⟩)
  rw [outline_eq_flatMap, List.mem_flatMap]
  refine ⟨p, hp, ?_⟩
  rw [Item.readAt_field (Token.keyword_of_is hword) rfl, Item.setting,
    value?_of_head? hv hkind (by decide)]
  exact List.mem_singleton_self _

lemma eq_of_place {ts rest : List Token} {t : Token} (hts : ts.Pairwise (·.place < ·.place))
    (ht : t :: rest <:+ ts) {p : Token × List Token} (hp : p ∈ stations ts)
    (hplace : p.1.place = t.place) : p = (t, rest) := by
  have hp := suffix_of_mem_stations p hp
  have heq : p.1 :: p.2 = t :: rest := by
    rcases List.suffix_or_suffix_of_suffix hp ht with h | h
    · exact Token.cons_eq_of_suffix (hts.sublist ht.sublist) h hplace
    · exact (Token.cons_eq_of_suffix (hts.sublist hp.sublist) h hplace.symm).symm
  obtain ⟨hhead, hrest⟩ := List.cons.inj heq
  exact Prod.ext hhead hrest

lemma tags_of_place {ts rest : List Token} {head list : Token}
    (hts : ts.Pairwise (·.place < ·.place)) (hsuffix : head :: list :: rest <:+ ts)
    (hlist : list.kind = .array) (honly : tagPlaces ts = [(head.line, head.column)]) :
    (Draft.empty.addAll settings (outline ts)).tags = Tags.read list.text := by
  obtain ⟨p, hfilter, hplace⟩ := List.map_eq_singleton_iff.mp honly
  have hp : p ∈ (stations ts).filter (·.1.is .tags) := by
    rw [hfilter]
    exact List.mem_singleton_self p
  have hpair := eq_of_place hts hsuffix (List.mem_filter.mp hp).1 (congrArg toLex hplace)
  have hsaid : (outline ts).filterMap (@Aspect.tags settings).said? =
      [Tags.read list.text] := by
    rw [said_outline_tags, hfilter, hpair, List.flatMap_singleton,
      value?_of_head? rfl hlist (by decide)]
    rfl
  have htags := (@Aspect.tags settings).of_addAll Draft.empty (outline ts)
  rw [hsaid] at htags
  exact htags

/-- A script with a name, of which one line lists tags at top level and no other does, has the tags that
are written in the parts of this list. -/
theorem tags_of_line {text : String} {above below : List String} {l : TagLine}
    (htext : Text.lines text = above ++ l.text :: below)
    (honly : tagPlaces (Token.ofText text) = [(1 + (above.length : ℤ), l.indent.length)])
    (hname : Named (Token.ofText text)) :
    ∃ sc, (read settings text).scenario = some sc ∧
      ∀ t, t ∈ sc.tags.toList ↔ ∃ p ∈ l.parts, p.entry.tag? = some t := by
  obtain ⟨column, more, hline⟩ := l.ofLine_text (1 + above.length)
  have hsuffix : Token.ofLine (1 + above.length) l.text ++
      Token.ofLinesFrom (1 + above.length + 1) below <:+ Token.ofText text := by
    rw [Token.ofText, htext, Token.ofLines, Token.ofLinesFrom_append]
    exact List.suffix_append _ _
  rw [hline] at hsuffix
  have htags := tags_of_place settings (Token.pairwise_ofText text) hsuffix rfl honly
  have hcomma : ∀ p ∈ l.parts, ',' ∉ p.entry.chars := fun p hp hc => by simpa using l.plain p hp ',' hc
  have hread := Draft.scenario_reading (Draft.empty.addAll settings (outline (Token.ofText text)))
  rw [if_neg (by simpa using hname.name_ne_empty settings), ← ofTokens, ← read_eq] at hread
  refine ⟨_, hread, fun t => ?_⟩
  rw [htags, TagLine.list, Tags.read_parts hcomma, SortedSet.mem_ofList, List.mem_filterMap]

lemma bare_smoke : Tags.Bare "smoke".toList where
  ne_nil := by simp
  head := by rintro _ ⟨⟩; rfl
  last := by rintro _ ⟨⟩; rfl
  unquoted := by simp

lemma bare_quote : Tags.Bare "\"".toList where
  ne_nil := by simp
  head := by rintro _ ⟨⟩; rfl
  last := by rintro _ ⟨⟩; rfl
  unquoted := by simp

lemma blank_nil : ∀ c ∈ [], Text.isBlank c = true :=
  List.forall_mem_nil _

lemma blank_space : ∀ c ∈ [' '], Text.isBlank c = true :=
  List.all_eq_true.mp rfl

lemma blank_tab : ∀ c ∈ ['\t'], Text.isBlank c = true :=
  List.all_eq_true.mp rfl

def taggedParts : List Tags.Part := [
  ⟨[], .bare "smoke" bare_smoke, [' '], blank_nil, blank_space⟩,
  ⟨[' '], .quoted "", [], blank_space, blank_nil⟩,
  ⟨[], .quoted " say \"hi\"", ['\t'], blank_nil, blank_tab⟩,
  ⟨[' '], .empty, [], blank_space, blank_nil⟩,
  ⟨[], .quoted "smoke", [], blank_nil, blank_nil⟩,
  ⟨[], .bare "\"" bare_quote, [], blank_nil, blank_nil⟩]

lemma plain_taggedParts : ∀ p ∈ taggedParts, ∀ c ∈ p.entry.chars, c ∉ [',', '[', ']'] := by
  simp [taggedParts, Tags.Entry.chars, Word.tagChars]

def tagged : TagLine where
  indent := ['\t']
  gap := [' ']
  parts := taggedParts
  rest := " url \"u\"".toList
  indent_blank := blank_tab
  gap_blank := blank_space
  plain := plain_taggedParts

def taggedScript : String :=
  "scenario \"S\" \x7b\n\ttags [smoke , \"\",\" say \"hi\"\"\t, ,\"smoke\",\"] url \"u\"\n" ++
    "step \"a\" \x7b tags [inner] \x7d\n\x7d"

theorem tags_of_line_tagged :
    ∃ sc, (read {} taggedScript).scenario = some sc ∧
      ∀ t, t ∈ sc.tags.toList ↔ t ∈ ["smoke", " say \"hi\"", "\""] := by
  have hlines : Text.lines taggedScript = ["scenario \"S\" \x7b"] ++ tagged.text ::
      ["step \"a\" \x7b tags [inner] \x7d", "\x7d"] := by decide +kernel
  obtain ⟨sc, hread, htags⟩ := tags_of_line {} hlines (by decide +kernel) (by decide +kernel)
  have hparts : tagged.parts.filterMap (·.entry.tag?) =
      ["smoke", " say \"hi\"", "smoke", "\""] := by decide +kernel
  refine ⟨sc, hread, fun t => ?_⟩
  rw [htags, ← List.mem_filterMap (f := fun p : Tags.Part => p.entry.tag?), hparts]
  simp only [List.mem_cons, List.not_mem_nil]
  tauto

end Script

end ScenarioScript
