import Mathlib.Data.List.Basic
import ScenarioScript.Proofs.Lexeme.Spelled
import ScenarioScript.Proofs.Scenario.WellFormed
import ScenarioScript.Tags

/-! Entries between brackets are read as the set of their tags, so a set of tags that is written between
brackets is read back. Whatever is read between brackets is a set of well formed tags. -/

namespace ScenarioScript

namespace SortedSet

variable {α : Type} [LT α] [DecidableLT α]

lemma insertList_of_lt {x : α} {l : List α} (h : ∀ y ∈ l, x < y) : insertList x l = x :: l := by
  cases l with
  | nil => rfl
  | cons a l => rw [insertList, if_pos (h a (by simp))]

omit [DecidableLT α] in
lemma ext_toList {s t : SortedSet α} (h : s.toList = t.toList) : s = t := by
  cases s
  cases t
  cases h
  rfl

variable [LE α] [Std.IsLinearOrder α] [Std.LawfulOrderLT α]

lemma toList_ofList_of_sorted {l : List α} (h : l.Pairwise (· < ·)) : (ofList l).toList = l := by
  induction l with
  | nil => rfl
  | cons x l ih =>
    obtain ⟨hx, hl⟩ := List.pairwise_cons.mp h
    change insertList x (ofList l).toList = x :: l
    rw [ih hl, insertList_of_lt hx]

lemma ofList_toList (s : SortedSet α) : ofList s.toList = s :=
  ext_toList (toList_ofList_of_sorted s.sorted)

lemma mem_of_mem_ofList {x : α} {l : List α} (h : x ∈ (ofList l).toList) : x ∈ l := by
  induction l with
  | nil => simp [ofList, empty] at h
  | cons a l ih =>
    rcases eq_or_mem_of_mem_insertList (l := (ofList l).toList) h with rfl | h
    · simp
    · simp [ih h]

lemma mem_insertList {x y : α} {l : List α} (h : y = x ∨ y ∈ l) : y ∈ insertList x l := by
  induction l with
  | nil => simpa [insertList] using h
  | cons a l ih =>
    unfold insertList
    split_ifs with hlt hgt
    · simpa using h
    · rcases h with h | h
      · simp [ih (.inl h)]
      · rcases List.mem_cons.mp h with h | h
        · simp [h]
        · simp [ih (.inr h)]
    · obtain rfl : x = a := Std.le_antisymm (Std.not_lt.mp hgt) (Std.not_lt.mp hlt)
      simpa using h

lemma mem_ofList {x : α} {l : List α} : x ∈ (ofList l).toList ↔ x ∈ l := by
  refine ⟨mem_of_mem_ofList, fun h => ?_⟩
  induction l with
  | nil => simp at h
  | cons a l ih => exact mem_insertList ((List.mem_cons.mp h).imp_right ih)

end SortedSet

namespace Text

lemma dropWhile_past {blanks rest : List Char} (h : ∀ c ∈ blanks, isBlank c = true)
    (hrest : ∀ c ∈ rest.head?, isBlank c = false) : (blanks ++ rest).dropWhile isBlank = rest := by
  rw [List.dropWhile_append_of_pos h]
  cases rest with
  | nil => rfl
  | cons c cs => exact List.dropWhile_cons_of_neg (by simp [hrest c rfl])

lemma trim_between {before core after : List Char} (hbefore : ∀ c ∈ before, isBlank c = true)
    (hafter : ∀ c ∈ after, isBlank c = true) (hhead : ∀ c ∈ core.head?, isBlank c = false)
    (hlast : ∀ c ∈ core.getLast?, isBlank c = false) :
    trim (before ++ (core ++ after)) = core := by
  cases core with
  | nil =>
    have hblank : ∀ c ∈ before ++ ([] ++ after), isBlank c = true := by
      simpa [or_imp, forall_and] using ⟨hbefore, hafter⟩
    rw [trim, trimLeft, List.dropWhile_eq_nil_iff.mpr hblank]
    rfl
  | cons c cs =>
    have hstart : ∀ d ∈ (c :: cs ++ after).head?, isBlank d = false := hhead
    rw [← List.head?_reverse] at hlast
    rw [trim, trimLeft, dropWhile_past hbefore hstart, trimRight, List.reverse_append,
      dropWhile_past (by simpa using hafter) hlast, List.reverse_reverse]

end Text

namespace Tags

lemma entries_eq_splitOn (cs : List Char) : entries cs = cs.splitOn ',' := by
  fun_induction entries cs with
  | case1 => rfl
  | case2 cs ih => simp [ih, List.splitOn, List.splitOnP_cons_eq_if_modifyHead]
  | case3 c cs hc he ih =>
    rw [ih] at he
    exact (List.splitOnP_ne_nil _ _ he).elim
  | case4 c cs hc e es he ih =>
    have hcomma : (c == ',') = false := by simpa using hc
    rw [List.splitOn, List.splitOnP_cons_eq_if_modifyHead, hcomma, ← List.splitOn, ← ih, he]
    rfl

lemma entries_intercalate {es : List (List Char)} (h : ∀ e ∈ es, ',' ∉ e) (hne : es ≠ []) :
    entries ([','].intercalate es) = es := by
  rw [entries_eq_splitOn, List.splitOn_intercalate ',' h hne]

lemma inside_brackets (cs : List Char) : inside ('[' :: (cs ++ [']'])) = cs := by
  simp [inside]

lemma unquote_quoted (tag : List Char) : unquote ('"' :: (tag ++ ['"'])) = tag := by
  simp [unquote]

def kept (tag : List Char) : Option String :=
  if tag.isEmpty then none else some (String.ofList tag)

lemma read_eq_filterMap (array : String) :
    read array = .ofList ((entries (inside array.toList)).filterMap fun e => kept (tagOf e)) := by
  rw [read, List.filterMap_map]
  rfl

structure Bare (tag : List Char) : Prop where
  ne_nil : tag ≠ []
  head : ∀ c ∈ tag.head?, Text.isBlank c = false
  last : ∀ c ∈ tag.getLast?, Text.isBlank c = false
  unquoted : ∀ cs, tag ≠ '"' :: (cs ++ ['"'])

inductive Entry
  | empty
  | bare (tag : String) (h : Bare tag.toList)
  | quoted (tag : String)

namespace Entry

def chars : Entry → List Char
  | empty => []
  | bare tag _ => tag.toList
  | quoted tag => Word.tagChars tag

def tag? : Entry → Option String
  | empty => none
  | bare tag _ => some tag
  | quoted tag => if tag = "" then none else some tag

lemma unquote_bare {tag : List Char} (h : Bare tag) : unquote tag = tag := by
  unfold unquote
  split
  · next cs =>
    refine if_neg fun hlast => ?_
    obtain ⟨inner, rfl⟩ := List.getLast?_eq_some_iff.mp hlast
    exact h.unquoted inner rfl
  · rfl

lemma kept_unquote (e : Entry) : kept (unquote e.chars) = e.tag? := by
  cases e with
  | empty => rfl
  | bare tag h =>
    have hne : tag.toList.isEmpty = false := by simpa using h.ne_nil
    rw [chars, unquote_bare h, kept, hne, String.ofList_toList, tag?]
    rfl
  | quoted tag =>
    rw [chars, Word.tagChars, unquote_quoted, kept, String.ofList_toList, tag?]
    simp only [List.isEmpty_iff, String.toList_eq_nil_iff]

lemma edges (e : Entry) : (∀ c ∈ e.chars.head?, Text.isBlank c = false) ∧
    ∀ c ∈ e.chars.getLast?, Text.isBlank c = false := by
  cases e with
  | empty => simp [chars]
  | bare tag h => exact ⟨h.head, h.last⟩
  | quoted tag =>
    rw [chars, Word.tagChars, ← List.cons_append, List.getLast?_concat]
    simp [Text.isBlank]

end Entry

structure Part where
  before : List Char
  entry : Entry
  after : List Char
  before_blank : ∀ c ∈ before, Text.isBlank c = true
  after_blank : ∀ c ∈ after, Text.isBlank c = true

namespace Part

def chars (p : Part) : List Char :=
  p.before ++ (p.entry.chars ++ p.after)

lemma tagOf_chars (p : Part) : tagOf p.chars = unquote p.entry.chars := by
  rw [tagOf, chars, Text.trim_between p.before_blank p.after_blank p.entry.edges.1 p.entry.edges.2]

lemma comma_notMem_chars {p : Part} (h : ',' ∉ p.entry.chars) : ',' ∉ p.chars := by
  rw [chars, List.mem_append, List.mem_append]
  rintro (hc | hc | hc)
  · exact absurd (p.before_blank ',' hc) (by decide)
  · exact h hc
  · exact absurd (p.after_blank ',' hc) (by decide)

end Part

lemma read_parts {ps : List Part} (h : ∀ p ∈ ps, ',' ∉ p.entry.chars) :
    read (String.ofList ('[' :: ([','].intercalate (ps.map Part.chars) ++ [']']))) =
      .ofList (ps.filterMap (·.entry.tag?)) := by
  have htag : (fun p : Part => kept (tagOf p.chars)) = fun p => p.entry.tag? :=
    funext fun p => by rw [p.tagOf_chars, p.entry.kept_unquote]
  rw [read_eq_filterMap, String.toList_ofList, inside_brackets]
  cases ps with
  | nil => rfl
  | cons p ps =>
    have hcomma : ∀ e ∈ (p :: ps).map Part.chars, ',' ∉ e :=
      List.forall_mem_map.mpr fun q hq => Part.comma_notMem_chars (h q hq)
    rw [entries_intercalate hcomma (by simp), List.filterMap_map, ← htag]
    rfl

lemma intercalate_cons (sep e : List Char) (es : List (List Char)) :
    sep.intercalate (e :: es) = e ++ es.flatMap (sep ++ ·) := by
  induction es generalizing e with
  | nil => rw [List.intercalate_singleton, List.flatMap_nil, List.append_nil]
  | cons f es ih =>
    rw [List.intercalate_cons_cons, ih, List.flatMap_cons, List.append_assoc, List.append_assoc]

def Part.ofTags : List String → List Part
  | [] => []
  | t :: ts => ⟨[], .quoted t, [], by simp, by simp⟩ ::
      ts.map fun u => ⟨[' '], .quoted u, [], by simp [Text.isBlank], by simp⟩

lemma intercalate_ofTags (ts : List String) :
    [','].intercalate ((Part.ofTags ts).map Part.chars) = Word.tagsChars ts := by
  cases ts with
  | nil => rfl
  | cons t ts =>
    rw [Part.ofTags, List.map_cons, intercalate_cons, Word.tagsChars, List.map_map, List.flatMap_map]
    simp [Part.chars, Entry.chars]

lemma entry_ofTags (ts : List String) : (Part.ofTags ts).map Part.entry = ts.map Entry.quoted := by
  cases ts with
  | nil => rfl
  | cons t ts =>
    rw [Part.ofTags, List.map_cons, List.map_map]
    rfl

lemma read_tags {s : SortedSet String} (hne : ∀ t ∈ s.toList, t ≠ "")
    (hcomma : ∀ t ∈ s.toList, ',' ∉ t.toList) : read (Word.tags s.toList).text = s := by
  have hquoted : ∀ p ∈ Part.ofTags s.toList, ∃ t ∈ s.toList, p.entry = .quoted t := by
    intro p hp
    have hentry := List.mem_map_of_mem (f := Part.entry) hp
    rw [entry_ofTags] at hentry
    obtain ⟨t, ht, he⟩ := List.mem_map.mp hentry
    exact ⟨t, ht, he.symm⟩
  have hplain : ∀ p ∈ Part.ofTags s.toList, ',' ∉ p.entry.chars := by
    intro p hp
    obtain ⟨t, ht, he⟩ := hquoted p hp
    rw [he]
    simpa [Entry.chars, Word.tagChars] using hcomma t ht
  have htags : (Part.ofTags s.toList).filterMap (·.entry.tag?) = s.toList := by
    have hmap : (fun p : Part => p.entry.tag?) = Entry.tag? ∘ Part.entry := rfl
    rw [hmap, ← List.filterMap_map, entry_ofTags, List.filterMap_map]
    refine (List.filterMap_congr fun t ht => ?_).trans List.filterMap_some
    exact if_neg (hne t ht)
  rw [Word.tags, ← intercalate_ofTags, read_parts hplain, htags, SortedSet.ofList_toList]

lemma comma_notMem_of_mem_entries {cs e : List Char} (h : e ∈ entries cs) : ',' ∉ e := by
  fun_induction entries cs generalizing e with
  | case1 => simp_all
  | case2 cs ih =>
    rcases List.mem_cons.mp h with rfl | h
    · simp
    · exact ih h
  | case3 c cs hc he ih =>
    obtain rfl := List.mem_singleton.mp h
    simpa using Ne.symm hc
  | case4 c cs hc d ds he ih =>
    rcases List.mem_cons.mp h with rfl | h
    · have hd := ih (e := d) (by simp [he])
      simpa [hd] using Ne.symm hc
    · exact ih (by simp [he, h])

lemma mem_of_mem_entries {cs e : List Char} (h : e ∈ entries cs) {c : Char} (hc : c ∈ e) : c ∈ cs := by
  fun_induction entries cs generalizing e with
  | case1 => simp_all
  | case2 cs ih =>
    rcases List.mem_cons.mp h with rfl | h
    · simp at hc
    · simp [ih h hc]
  | case3 d cs _ he ih =>
    obtain rfl := List.mem_singleton.mp h
    simp_all
  | case4 d cs _ k ks he ih =>
    rcases List.mem_cons.mp h with rfl | h
    · rcases List.mem_cons.mp hc with rfl | hc
      · simp
      · simp [ih (e := k) (by simp [he]) hc]
    · simp [ih (e := e) (by simp [he, h]) hc]

lemma inside_subset (cs : List Char) : inside cs ⊆ cs := by
  unfold inside
  split
  · split
    · exact fun c hc => List.mem_cons_of_mem _ (List.dropLast_subset _ hc)
    · exact fun c hc => by simp [hc]
  · exact fun c hc => hc

lemma tagOf_subset (e : List Char) : tagOf e ⊆ e := by
  have htrim : Text.trim e ⊆ e := by
    intro c hc
    have hc : c ∈ ((e.dropWhile Text.isBlank).reverse.dropWhile Text.isBlank).reverse := hc
    exact (List.dropWhile_sublist _).subset
      (List.mem_reverse.mp ((List.dropWhile_sublist _).subset (List.mem_reverse.mp hc)))
  refine fun c hc => htrim ?_
  unfold tagOf unquote at hc
  split at hc
  · next cs he =>
    rw [he]
    split at hc
    · exact List.mem_cons_of_mem _ (List.dropLast_subset _ hc)
    · exact hc
  · exact hc

lemma read_wellFormed {array : String} (h : ∀ c ∈ array.toList, Text.isLineBreak c = false) :
    ∀ t ∈ (read array).toList, WellFormed t := by
  intro t ht
  obtain ⟨tag, htag, hne⟩ := List.mem_filterMap.mp (SortedSet.mem_of_mem_ofList ht)
  obtain ⟨e, he, rfl⟩ := List.mem_map.mp htag
  split at hne
  · simp at hne
  · next hnil =>
    obtain rfl := Option.some.inj hne
    have hmem : ∀ c ∈ tagOf e, c ∈ e := fun c hc => tagOf_subset e hc
    refine ⟨by simpa using hnil, ?_, ?_⟩
    · simpa using fun hc => comma_notMem_of_mem_entries he (hmem _ hc)
    · intro c hc
      exact h c (inside_subset _ (mem_of_mem_entries he (hmem c (by simpa using hc))))

end Tags

end ScenarioScript
