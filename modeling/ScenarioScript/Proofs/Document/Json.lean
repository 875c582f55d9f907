import Mathlib.Data.List.Basic
import Mathlib.Data.List.TakeWhile
import Mathlib.Tactic.IntervalCases
import ScenarioScript.Document.Json
import ScenarioScript.Document.OfJson
import ScenarioScript.Proofs.Decimal
import ScenarioScript.Proofs.Document

namespace ScenarioScript.Document

lemma setField_of_notMem {k : String} (d : Document) {fs : List (String × Document)}
    (h : k ∉ fs.map Prod.fst) : setField k d fs = fs ++ [(k, d)] := by
  induction fs with
  | nil => rfl
  | cons f fs ih =>
    obtain ⟨hk, hfs⟩ := not_or.mp (List.mem_cons.not.mp h)
    rw [setField, if_neg (Ne.symm hk), ih hfs, List.cons_append]

lemma distinct_eq_self {fs : List (String × Document)} (h : (fs.map Prod.fst).Nodup) :
    distinct fs = fs := by
  have hfold : ∀ front : List (String × Document), ((front ++ fs).map Prod.fst).Nodup →
      fs.foldl (fun r f => setField f.1 f.2 r) front = front ++ fs := by
    clear h
    induction fs with
    | nil => simp
    | cons f fs ih =>
      intro front hd
      have hf : f.1 ∉ front.map Prod.fst := by
        rw [List.map_append, List.nodup_append] at hd
        exact fun hm => hd.2.2 _ hm _ (by simp) rfl
      rw [List.foldl_cons, setField_of_notMem f.2 hf, ih _ (by simpa using hd)]
      simp
  exact hfold [] h

namespace OfJson

open Yaml.Enclosed (hexValue?)

lemma skipSpaces_append {sp cs : List Char} (h : ∀ c ∈ sp, isSpace c = true) :
    skipSpaces (sp ++ cs) = skipSpaces cs :=
  List.dropWhile_append_of_pos h

lemma skipSpaces_cons {c : Char} {cs : List Char} (h : isSpace c = false) :
    skipSpaces (c :: cs) = c :: cs := by
  simp [skipSpaces, h]

lemma hexValue?_digitChar {n : ℕ} (h : n < 16) : hexValue? (Nat.digitChar n) = some n := by
  interval_cases n <;> rfl

lemma unit?_hexDigits {n : ℕ} (h : n < 0x10000) (cs : List Char) :
    unit? (Text.hexDigits 4 n ++ cs) = some (n, cs) := by
  have hlt (m : ℕ) : m % 16 < 16 := Nat.mod_lt _ (by decide)
  simp only [Text.hexDigits, List.nil_append, List.cons_append, unit?, hexValue?_digitChar (hlt _),
    Option.pure_def, Option.bind_eq_bind, Option.bind_some, Option.some.injEq, Prod.mk.injEq,
    and_true]
  omega

lemma string?_escape (c : Char) (cs : List Char) :
    string? (Json.escape c ++ cs) = (string? cs).map fun (tail, rest) => (c :: tail, rest) := by
  have hshort {e : Char} (he : escape? (e :: cs) = some (c, cs)) :
      string? ('\\' :: e :: cs) = (string? cs).map fun (tail, rest) => (c :: tail, rest) := by
    rw [string?]
    split <;> simp_all
  unfold Json.escape
  split
  · exact hshort rfl
  · exact hshort rfl
  · exact hshort rfl
  · exact hshort rfl
  · exact hshort rfl
  · exact hshort rfl
  · exact hshort rfl
  · next hq hb _ _ _ _ _ =>
    split
    · next hlt =>
      have hc : longEscape? (Text.hexDigits 4 c.toNat ++ cs) = some (c, cs) := by
        have hhigh : isHigh c.toNat = false := by simp [isHigh]; omega
        have hlow : isLow c.toNat = false := by simp [isLow]; omega
        simp [longEscape?, unit?_hexDigits (show c.toNat < 0x10000 by omega), hhigh, hlow]
      have he : escape? ('u' :: (Text.hexDigits 4 c.toNat ++ cs)) = some (c, cs) := hc
      rw [List.cons_append, List.cons_append, string?]
      split <;> simp_all
    · next hge =>
      rw [List.cons_append, List.nil_append, string?, if_neg hge]
      · exact fun h => hq h
      · exact fun h => hb h

lemma string?_string (s rest : List Char) :
    string? (s.flatMap Json.escape ++ '"' :: rest) = some (s, rest) := by
  induction s with
  | nil => rw [List.flatMap_nil, List.nil_append, string?]
  | cons c s ih => rw [List.flatMap_cons, List.append_assoc, string?_escape, ih]; rfl

def Ends (rest : List Char) : Prop :=
  ∀ c ∈ rest.head?, c.isDigit = false ∧ c ∉ ['.', 'e', 'E']

lemma natural?_digitChars (n : ℕ) {rest : List Char} (h : Ends rest) :
    natural? (Decimal.digitChars n ++ rest) = some (n, rest) := by
  have hdigits : ∀ c ∈ Decimal.digitChars n, c.isDigit = true :=
    fun _ hc => Decimal.isDigit_of_mem_digitChars hc
  have htake : rest.takeWhile Char.isDigit = [] := by
    cases rest with
    | nil => rfl
    | cons c _ => simp [(h c (by simp)).1]
  have hdrop : rest.dropWhile Char.isDigit = rest := by
    cases rest with
    | nil => rfl
    | cons c _ => simp [(h c (by simp)).1]
  have hzero : ¬((Decimal.digitChars n).head? = some '0' ∧ 1 < (Decimal.digitChars n).length) := by
    rintro ⟨h0, hlen⟩
    rw [Decimal.eq_zero_of_head?_digitChars h0] at hlen
    exact absurd hlen (by decide)
  have hrest : rest.head?.any ['.', 'e', 'E'].contains = false := by
    cases rest with
    | nil => rfl
    | cons c _ => simpa using (h c (by simp)).2
  have hne := Decimal.digitChars_ne_nil n
  rw [natural?, List.takeWhile_append_of_pos hdigits, List.dropWhile_append_of_pos hdigits, htake,
    hdrop, List.append_nil, if_neg (by simp_all), Decimal.digitChars, Nat.ofDigitChars_ten_toDigits]

lemma integer?_chars (n : ℤ) {rest : List Char} (h : Ends rest) :
    integer? (Decimal.chars n ++ rest) = some (n, rest) := by
  cases n with
  | ofNat n =>
    have hne : ∀ cs, Decimal.digitChars n ++ rest ≠ '-' :: cs := by
      intro cs he
      obtain ⟨c, ds, hd⟩ := List.exists_cons_of_ne_nil (Decimal.digitChars_ne_nil n)
      have hc : c.isDigit = true := Decimal.isDigit_of_mem_digitChars (n := n) (by simp [hd])
      rw [hd, List.cons_append, List.cons.injEq] at he
      exact absurd (he.1 ▸ hc) (by decide)
    rw [Decimal.chars, integer?, natural?_digitChars n h]
    · rfl
    · exact hne
  | negSucc n =>
    rw [Decimal.chars, List.cons_append, integer?, natural?_digitChars (n + 1) h]
    rfl

lemma value?_list {n : ℕ} {cs : List Char} (h : ∀ rest, skipSpaces cs ≠ ']' :: rest) :
    value? (n + 1) ('[' :: cs) =
      (items? n (skipSpaces cs)).map fun (ds, rest) => (.list ds, rest) := by
  rw [value?]
  split
  · next rest he => exact absurd he (h rest)
  · rfl

lemma value?_record {n : ℕ} {cs : List Char} (h : ∀ rest, skipSpaces cs ≠ '\x7d' :: rest) :
    value? (n + 1) ('\x7b' :: cs) =
      (fields? n (skipSpaces cs)).map fun (fs, rest) => (.record (distinct fs), rest) := by
  rw [value?]
  split
  · next rest he => exact absurd he (h rest)
  · rfl

end OfJson

namespace Json

structure Layout.IsSpaced (l : Layout) : Prop where
  opening : ∀ n, ∀ c ∈ l.opening n, OfJson.isSpace c = true
  between : ∀ n, ∃ sp, l.between n = ',' :: sp ∧ ∀ c ∈ sp, OfJson.isSpace c = true
  closing : ∀ n, ∀ c ∈ l.closing n, OfJson.isSpace c = true

lemma isSpaced_compact : compact.IsSpaced where
  opening _ := by simp [compact]
  between _ := ⟨[' '], rfl, by simp [OfJson.isSpace]⟩
  closing _ := by simp [compact]

lemma isSpace_of_mem_newline {n : ℕ} {c : Char} (h : c ∈ newline n) : OfJson.isSpace c = true := by
  rcases List.mem_cons.mp h with rfl | h
  · rfl
  · rw [List.eq_of_mem_replicate h]
    rfl

lemma isSpaced_pretty : pretty.IsSpaced where
  opening _ _ := isSpace_of_mem_newline
  between n := ⟨newline (n + 1), rfl, fun _ => isSpace_of_mem_newline⟩
  closing _ _ := isSpace_of_mem_newline

lemma isSpaced_layout (p : Bool) : (layout p).IsSpaced := by
  cases p
  · exact isSpaced_compact
  · exact isSpaced_pretty

def written (l : Layout) (depth : ℕ) (d : Document) : List Char :=
  (pieces l depth d).flatMap Piece.text

def writtenItems (l : Layout) (depth : ℕ) (ds : List Document) : List Char :=
  (items l depth ds).flatMap Piece.text

def writtenFields (l : Layout) (depth : ℕ) (fs : List (String × Document)) : List Char :=
  (fields l depth fs).flatMap Piece.text

variable {l : Layout} {depth : ℕ}

lemma written_list (d : Document) (ds : List Document) :
    written l depth (.list (d :: ds)) = '[' :: (l.opening depth ++ (written l (depth + 1) d ++
      (writtenItems l depth ds ++ (l.closing depth ++ [']'])))) := by
  simp [written, writtenItems, pieces, Piece.text]

lemma written_record (k : String) (d : Document) (fs : List (String × Document)) :
    written l depth (.record ((k, d) :: fs)) = '\x7b' :: (l.opening depth ++ (key k ++
      (written l (depth + 1) d ++ (writtenFields l depth fs ++ (l.closing depth ++ ['\x7d']))))) := by
  simp [written, writtenFields, pieces, Piece.text]

lemma writtenItems_cons (d : Document) (ds : List Document) :
    writtenItems l depth (d :: ds) =
      l.between depth ++ (written l (depth + 1) d ++ writtenItems l depth ds) := by
  simp [written, writtenItems, items, Piece.text]

lemma writtenFields_cons (k : String) (d : Document) (fs : List (String × Document)) :
    writtenFields l depth ((k, d) :: fs) =
      l.between depth ++ (key k ++ (written l (depth + 1) d ++ writtenFields l depth fs)) := by
  simp [written, writtenFields, fields, Piece.text]

lemma written_eq_cons (l : Layout) (depth : ℕ) (d : Document) :
    ∃ c cs, written l depth d = c :: cs ∧ OfJson.isSpace c = false ∧ c ≠ ']' := by
  cases d with
  | null => exact ⟨_, _, rfl, rfl, by decide⟩
  | bool b => cases b <;> exact ⟨_, _, rfl, rfl, by decide⟩
  | int n =>
    cases n with
    | ofNat n =>
      obtain ⟨c, cs, hd⟩ := List.exists_cons_of_ne_nil (Decimal.digitChars_ne_nil n)
      have hc : c.isDigit = true := Decimal.isDigit_of_mem_digitChars (n := n) (by simp [hd])
      refine ⟨c, cs, by simp [written, pieces, Piece.text, Decimal.chars, hd], ?_, ?_⟩
      · by_contra hs
        simp only [OfJson.isSpace, Bool.not_eq_false, Bool.or_eq_true, decide_eq_true_eq] at hs
        rcases hs with ((rfl | rfl) | rfl) | rfl <;> exact absurd hc (by decide)
      · rintro rfl
        exact absurd hc (by decide)
    | negSucc n =>
      exact ⟨'-', _, by simp [written, pieces, Piece.text, Decimal.chars]; rfl, rfl, by decide⟩
  | text s => exact ⟨'"', _, by simp [written, pieces, Piece.text, string]; rfl, rfl, by decide⟩
  | list ds =>
    cases ds with
    | nil => exact ⟨_, _, rfl, rfl, by decide⟩
    | cons d ds => exact ⟨_, _, written_list d ds, rfl, by decide⟩
  | record fs =>
    cases fs with
    | nil => exact ⟨_, _, rfl, rfl, by decide⟩
    | cons f fs => exact ⟨_, _, written_record f.1 f.2 fs, rfl, by decide⟩

def Reads (d : Document) : Prop :=
  ∀ {l : Layout} (depth : ℕ) {n : ℕ} {rest : List Char}, l.IsSpaced → OfJson.Ends rest →
    (written l depth d).length ≤ n → OfJson.value? n (written l depth d ++ rest) = some (d, rest)

lemma ends_cons {rest : List Char} {c : Char} (hc : c.isDigit = false) (hc' : c ∉ ['.', 'e', 'E']) :
    OfJson.Ends (c :: rest) := by
  simpa [OfJson.Ends] using ⟨hc, by simpa using hc'⟩

lemma ends_of_isSpace {rest : List Char} {c : Char} (hc : OfJson.isSpace c = true) :
    OfJson.Ends (c :: rest) := by
  simp only [OfJson.isSpace, Bool.or_eq_true, decide_eq_true_eq] at hc
  rcases hc with ((rfl | rfl) | rfl) | rfl <;> exact ends_cons rfl (by decide)

lemma ends_append {sp rest : List Char} {c : Char} (h : ∀ c ∈ sp, OfJson.isSpace c = true)
    (hc : c.isDigit = false) (hc' : c ∉ ['.', 'e', 'E']) : OfJson.Ends (sp ++ c :: rest) := by
  cases sp with
  | nil => exact ends_cons hc hc'
  | cons b sp => exact ends_of_isSpace (h b (by simp))

lemma skipSpaces_written (d : Document) (rest : List Char) :
    OfJson.skipSpaces (written l depth d ++ rest) = written l depth d ++ rest := by
  obtain ⟨c, cs, hw, hc, -⟩ := written_eq_cons l depth d
  rw [hw, List.cons_append, OfJson.skipSpaces_cons hc]

lemma ends_items (hl : l.IsSpaced) (depth : ℕ) (ds : List Document) (rest : List Char) :
    OfJson.Ends (writtenItems l depth ds ++ (l.closing depth ++ ']' :: rest)) := by
  cases ds with
  | nil => exact ends_append (hl.closing depth) rfl (by decide)
  | cons d ds =>
    obtain ⟨sp, hsp, -⟩ := hl.between depth
    rw [writtenItems_cons, hsp]
    exact ends_cons rfl (by decide)

lemma ends_fields (hl : l.IsSpaced) (depth : ℕ) (fs : List (String × Document))
    (rest : List Char) :
    OfJson.Ends (writtenFields l depth fs ++ (l.closing depth ++ '\x7d' :: rest)) := by
  cases fs with
  | nil => exact ends_append (hl.closing depth) rfl (by decide)
  | cons f fs =>
    obtain ⟨sp, hsp, -⟩ := hl.between depth
    rw [writtenFields_cons, hsp]
    exact ends_cons rfl (by decide)

lemma key?_key (k : String) {cs : List Char} (h : OfJson.skipSpaces cs = cs) :
    OfJson.key? (key k ++ cs) = some (k, cs) := by
  have hs : OfJson.string? (k.toList.flatMap escape ++ '"' :: (':' :: ' ' :: cs)) =
      some (k.toList, ':' :: ' ' :: cs) := OfJson.string?_string _ _
  have hsp : OfJson.skipSpaces (' ' :: cs) = cs := by
    rwa [OfJson.skipSpaces, List.dropWhile_cons_of_pos rfl]
  have hk : key k ++ cs = '"' :: (k.toList.flatMap escape ++ '"' :: (':' :: ' ' :: cs)) := by
    simp [key, string]
  rw [hk, OfJson.key?, hs]
  simp [OfJson.skipSpaces_cons (c := ':') rfl, hsp]

section Parts

variable (hl : l.IsSpaced) {n : ℕ} {rest : List Char}

include hl

lemma items?_written {d : Document} {ds : List Document} (h : ∀ e ∈ d :: ds, Reads e)
    (hn : (written l (depth + 1) d).length + (writtenItems l depth ds).length + 1 ≤ n) :
    OfJson.items? n (written l (depth + 1) d ++
      (writtenItems l depth ds ++ (l.closing depth ++ ']' :: rest))) = some (d :: ds, rest) := by
  induction ds generalizing d n with
  | nil =>
    obtain ⟨n, rfl⟩ : ∃ m, n = m + 1 := ⟨n - 1, by omega⟩
    have hd := h d (by simp) (depth + 1) (n := n) hl (ends_items hl depth [] rest) (by omega)
    rw [OfJson.items?, hd]
    simp [writtenItems, items, OfJson.skipSpaces_append (hl.closing depth),
      OfJson.skipSpaces_cons (c := ']') rfl]
  | cons e ds ih =>
    obtain ⟨n, rfl⟩ : ∃ m, n = m + 1 := ⟨n - 1, by omega⟩
    obtain ⟨sp, hsp, hspace⟩ := hl.between depth
    have hd := h d (by simp) (depth + 1) (n := n) hl (ends_items hl depth (e :: ds) rest)
      (by omega)
    rw [writtenItems_cons, hsp] at hn
    have hrec := ih (d := e) (n := n) (fun x hx => h x (by simp_all)) (by simp at hn; omega)
    rw [OfJson.items?, hd]
    simp [writtenItems_cons, hsp, OfJson.skipSpaces_cons (c := ',') rfl,
      OfJson.skipSpaces_append hspace, skipSpaces_written, hrec]

lemma fields?_written {k : String} {d : Document} {fs : List (String × Document)}
    (h : ∀ f ∈ (k, d) :: fs, Reads f.2)
    (hn : (written l (depth + 1) d).length + (writtenFields l depth fs).length + 1 ≤ n) :
    OfJson.fields? n (key k ++ (written l (depth + 1) d ++
      (writtenFields l depth fs ++ (l.closing depth ++ '\x7d' :: rest)))) =
      some ((k, d) :: fs, rest) := by
  induction fs generalizing k d n with
  | nil =>
    obtain ⟨n, rfl⟩ : ∃ m, n = m + 1 := ⟨n - 1, by omega⟩
    have hread : Reads d := h (k, d) (by simp)
    have hd := hread (depth + 1) (n := n) hl (ends_fields hl depth [] rest) (by omega)
    rw [OfJson.fields?, key?_key k (skipSpaces_written d _)]
    simp only [Option.bind_eq_bind, Option.bind_some, hd]
    simp [writtenFields, fields, OfJson.skipSpaces_append (hl.closing depth),
      OfJson.skipSpaces_cons (c := '\x7d') rfl]
  | cons f fs ih =>
    obtain ⟨k', d'⟩ := f
    obtain ⟨n, rfl⟩ : ∃ m, n = m + 1 := ⟨n - 1, by omega⟩
    obtain ⟨sp, hsp, hspace⟩ := hl.between depth
    have hread : Reads d := h (k, d) (by simp)
    have hd := hread (depth + 1) (n := n) hl (ends_fields hl depth ((k', d') :: fs) rest) (by omega)
    rw [writtenFields_cons, hsp] at hn
    have hrec := ih (k := k') (d := d') (n := n) (fun x hx => h x (by simp_all))
      (by simp at hn; omega)
    have hkey (cs : List Char) : OfJson.skipSpaces (key k' ++ cs) = key k' ++ cs :=
      OfJson.skipSpaces_cons rfl
    rw [OfJson.fields?, key?_key k (skipSpaces_written d _)]
    simp only [Option.bind_eq_bind, Option.bind_some, hd]
    simp [writtenFields_cons, hsp, OfJson.skipSpaces_cons (c := ',') rfl,
      OfJson.skipSpaces_append hspace, hkey, hrec]

end Parts

lemma reads_int (m : ℤ) : Reads (.int m) := by
  intro l depth n rest hl hrest hn
  have hw : written l depth (.int m) = Decimal.chars m := by simp [written, pieces, Piece.text]
  rw [hw] at hn ⊢
  obtain ⟨c, cs, hc, hhead⟩ : ∃ c cs, Decimal.chars m = c :: cs ∧ (c = '-' ∨ c.isDigit = true) := by
    cases m with
    | ofNat m =>
      obtain ⟨c, cs, hd⟩ := List.exists_cons_of_ne_nil (Decimal.digitChars_ne_nil m)
      exact ⟨c, cs, hd, .inr (Decimal.isDigit_of_mem_digitChars (n := m) (by simp [hd]))⟩
    | negSucc m => exact ⟨_, _, rfl, .inl rfl⟩
  obtain ⟨n, rfl⟩ : ∃ k, n = k + 1 := ⟨n - 1, by simp [hc] at hn; omega⟩
  have hint := OfJson.integer?_chars m hrest
  rw [hc, List.cons_append] at hint ⊢
  rw [OfJson.value?, hint]
  · rfl
  all_goals
    rintro _ he
    obtain ⟨rfl, -⟩ := List.cons.inj he
    exact absurd hhead (by decide)

lemma reads {d : Document} (h : d.HasDistinctKeys) : Reads d := by
  induction d using Document.inductionOn with
  | null =>
    intro l depth n rest hl hrest hn
    obtain ⟨n, rfl⟩ : ∃ k, n = k + 1 := ⟨n - 1, by simp [written, pieces, Piece.text] at hn; omega⟩
    rfl
  | bool b =>
    intro l depth n rest hl hrest hn
    obtain ⟨n, rfl⟩ : ∃ k, n = k + 1 :=
      ⟨n - 1, by cases b <;> simp [written, pieces, Piece.text] at hn <;> omega⟩
    cases b <;> rfl
  | int m => exact reads_int m
  | text s =>
    intro l depth n rest hl hrest hn
    have hw : written l depth (.text s) = string s := by simp [written, pieces, Piece.text]
    rw [hw] at hn ⊢
    obtain ⟨n, rfl⟩ : ∃ k, n = k + 1 := ⟨n - 1, by simp [string] at hn; omega⟩
    have hs : string s ++ rest = '"' :: (s.toList.flatMap escape ++ '"' :: rest) := by
      simp [string]
    rw [hs, OfJson.value?, OfJson.string?_string]
    simp
  | list ds ih =>
    intro l depth n rest hl hrest hn
    cases ds with
    | nil =>
      obtain ⟨n, rfl⟩ : ∃ k, n = k + 1 :=
        ⟨n - 1, by simp [written, pieces, Piece.text] at hn; omega⟩
      rfl
    | cons d ds =>
      rw [written_list] at hn ⊢
      simp only [List.length_cons, List.length_append] at hn
      obtain ⟨n, rfl⟩ : ∃ k, n = k + 1 := ⟨n - 1, by omega⟩
      have hds : ∀ e ∈ d :: ds, Reads e := fun e he => ih e he (haveDistinctKeys_iff.mp h e he)
      obtain ⟨c, cs, hw, hc, hclose⟩ := written_eq_cons l (depth + 1) d
      have hskip (cs : List Char) : OfJson.skipSpaces (l.opening depth ++
          (written l (depth + 1) d ++ cs)) = written l (depth + 1) d ++ cs := by
        rw [OfJson.skipSpaces_append (hl.opening depth), skipSpaces_written]
      simp only [List.cons_append, List.append_assoc, List.nil_append]
      rw [OfJson.value?_list, hskip, items?_written hl hds (by omega)]
      · rfl
      · intro cs' he
        rw [hskip, hw, List.cons_append] at he
        exact hclose (List.cons.inj he).1
  | record fs ih =>
    intro l depth n rest hl hrest hn
    obtain ⟨hkeys, hfields⟩ := h
    cases fs with
    | nil =>
      obtain ⟨n, rfl⟩ : ∃ k, n = k + 1 :=
        ⟨n - 1, by simp [written, pieces, Piece.text] at hn; omega⟩
      rfl
    | cons f fs =>
      obtain ⟨k, d⟩ := f
      rw [written_record] at hn ⊢
      simp only [List.length_cons, List.length_append] at hn
      obtain ⟨n, rfl⟩ : ∃ k, n = k + 1 := ⟨n - 1, by omega⟩
      have hfs : ∀ f ∈ (k, d) :: fs, Reads f.2 :=
        fun f hf => ih f hf (fieldsHaveDistinctKeys_iff.mp hfields f hf)
      have hskip (cs : List Char) :
          OfJson.skipSpaces (l.opening depth ++ (key k ++ cs)) = key k ++ cs := by
        rw [OfJson.skipSpaces_append (hl.opening depth)]
        exact OfJson.skipSpaces_cons rfl
      simp only [List.cons_append, List.append_assoc, List.nil_append]
      rw [OfJson.value?_record, hskip, fields?_written hl hfs (by omega)]
      · simp only [Option.map_some, distinct_eq_self hkeys]
      · intro cs' he
        rw [hskip] at he
        exact absurd (List.cons.inj he).1 (by decide)

section Characters

variable {P : Char → Prop} (hP : ∀ c : Char, 0x20 ≤ c.toNat → P c)

include hP

lemma forall_escape (b : Char) : ∀ c ∈ escape b, P c := by
  have hdigit (n : ℕ) : P (Nat.digitChar (n % 16)) := by
    have hlt : n % 16 < 16 := Nat.mod_lt _ (by decide)
    generalize n % 16 = m at hlt
    interval_cases m <;> exact hP _ (by decide)
  unfold escape
  split
  case h_8 =>
    split
    · have hb : P '\\' := hP _ (by decide)
      have hu : P 'u' := hP _ (by decide)
      simp [Text.hexDigits, hdigit, hb, hu]
    · next hge => simpa using hP b (by omega)
  all_goals
    intro c hc
    simp only [List.mem_cons, List.not_mem_nil, or_false] at hc
    rcases hc with rfl | rfl <;> exact hP _ (by decide)

lemma forall_string (s : String) : ∀ c ∈ string s, P c := by
  have hq : P '"' := hP _ (by decide)
  intro c hc
  simp only [string, List.cons_append, List.mem_cons, List.mem_append, List.mem_flatMap,
    List.not_mem_nil, or_false] at hc
  rcases hc with rfl | ⟨b, -, hb⟩ | rfl
  · exact hq
  · exact forall_escape hP b c hb
  · exact hq

lemma forall_key (k : String) : ∀ c ∈ key k, P c := by
  intro c hc
  simp only [key, List.mem_append, List.mem_cons, List.not_mem_nil, or_false] at hc
  rcases hc with hc | rfl | rfl
  · exact forall_string hP k c hc
  · exact hP _ (by decide)
  · exact hP _ (by decide)

omit hP in
lemma forall_writtenItems (hbetween : ∀ n, ∀ c ∈ l.between n, P c) {ds : List Document}
    (h : ∀ d ∈ ds, ∀ depth, ∀ c ∈ written l depth d, P c) (depth : ℕ) :
    ∀ c ∈ writtenItems l depth ds, P c := by
  induction ds with
  | nil => simp [writtenItems, items]
  | cons d ds ih =>
    intro c hc
    simp only [writtenItems_cons, List.mem_append] at hc
    rcases hc with hc | hc | hc
    · exact hbetween _ c hc
    · exact h d (by simp) _ c hc
    · exact ih (fun e he => h e (by simp [he])) c hc

lemma forall_writtenFields (hbetween : ∀ n, ∀ c ∈ l.between n, P c)
    {fs : List (String × Document)} (h : ∀ f ∈ fs, ∀ depth, ∀ c ∈ written l depth f.2, P c)
    (depth : ℕ) : ∀ c ∈ writtenFields l depth fs, P c := by
  induction fs with
  | nil => simp [writtenFields, fields]
  | cons f fs ih =>
    obtain ⟨k, d⟩ := f
    intro c hc
    simp only [writtenFields_cons, List.mem_append] at hc
    rcases hc with hc | hc | hc | hc
    · exact hbetween _ c hc
    · exact forall_key hP k c hc
    · exact h (k, d) (by simp) _ c hc
    · exact ih (fun f hf => h f (by simp [hf])) c hc

lemma forall_written (hopening : ∀ n, ∀ c ∈ l.opening n, P c)
    (hbetween : ∀ n, ∀ c ∈ l.between n, P c) (hclosing : ∀ n, ∀ c ∈ l.closing n, P c)
    (d : Document) : ∀ depth, ∀ c ∈ written l depth d, P c := by
  have hword {cs : List Char} (h : cs.all (0x20 ≤ ·.toNat) = true) : ∀ c ∈ cs, P c :=
    fun c hc => hP c (by simpa using List.all_eq_true.mp h c hc)
  induction d using Document.inductionOn with
  | null => exact fun _ => hword rfl
  | bool b =>
    cases b
    · exact fun _ => hword rfl
    · exact fun _ => hword rfl
  | int n =>
    intro _ c hc
    have hdigit {m : ℕ} (h : c ∈ Decimal.digitChars m) : P c := by
      have := Char.isDigit_iff_toNat.mp (Decimal.isDigit_of_mem_digitChars h)
      simp only [Char.reduceToNat] at this
      exact hP c (by omega)
    have hc : c ∈ Decimal.chars n := by simpa [written, pieces, Piece.text] using hc
    cases n with
    | ofNat n => exact hdigit hc
    | negSucc n =>
      rcases List.mem_cons.mp hc with rfl | hc
      · exact hP _ (by decide)
      · exact hdigit hc
  | text s =>
    intro _ c hc
    exact forall_string hP s c (by simpa [written, pieces, Piece.text] using hc)
  | list ds ih =>
    intro depth
    cases ds with
    | nil => exact hword rfl
    | cons d ds =>
      have hds := forall_writtenItems hbetween (fun e he => ih e (List.mem_cons_of_mem d he)) depth
      intro c hc
      simp only [written_list, List.mem_cons, List.mem_append, List.not_mem_nil, or_false] at hc
      rcases hc with rfl | hc | hc | hc | hc | rfl
      · exact hP _ (by decide)
      · exact hopening _ c hc
      · exact ih d (by simp) _ c hc
      · exact hds c hc
      · exact hclosing _ c hc
      · exact hP _ (by decide)
  | record fs ih =>
    intro depth
    cases fs with
    | nil => exact hword rfl
    | cons f fs =>
      obtain ⟨k, d⟩ := f
      have hfs := forall_writtenFields hP hbetween
        (fun f hf => ih f (List.mem_cons_of_mem (k, d) hf)) depth
      intro c hc
      simp only [written_record, List.mem_cons, List.mem_append, List.not_mem_nil, or_false] at hc
      rcases hc with rfl | hc | hc | hc | hc | hc | rfl
      · exact hP _ (by decide)
      · exact hopening _ c hc
      · exact forall_key hP k c hc
      · exact ih (k, d) (by simp) _ c hc
      · exact hfs c hc
      · exact hclosing _ c hc
      · exact hP _ (by decide)

end Characters

end Json

lemma ofJson?_append {d : Document} (h : d.HasDistinctKeys) (p : Bool) {sp : List Char}
    (hsp : ∀ c ∈ sp, OfJson.isSpace c = true) :
    ofJson? (String.ofList ((d.json p).toList ++ sp)) = some d := by
  have hs : (d.json p).toList = Json.written (Json.layout p) 0 d := String.toList_ofList
  have hlen : (Json.written (Json.layout p) 0 d).length ≤
      (Json.written (Json.layout p) 0 d ++ sp).length + 1 := by
    simp only [List.length_append]
    omega
  have hends : OfJson.Ends sp := by
    cases sp with
    | nil => simp [OfJson.Ends]
    | cons c sp => exact Json.ends_of_isSpace (hsp c (by simp))
  have hread := Json.reads h 0 (Json.isSpaced_layout p) hends hlen
  have hrest : OfJson.skipSpaces sp = [] := List.dropWhile_eq_nil_iff.mpr hsp
  rw [ofJson?, ← String.length_toList, String.toList_ofList, hs, Json.skipSpaces_written]
  simp only [Option.bind_eq_bind, hread, Option.bind_some, hrest]
  rfl

lemma ofJson?_json {d : Document} (h : d.HasDistinctKeys) (p : Bool) :
    ofJson? (d.json p) = some d := by
  have hempty : ofJson? (String.ofList ((d.json p).toList ++ [])) = some d :=
    ofJson?_append h p (by simp)
  rwa [List.append_nil, String.ofList_toList] at hempty

lemma escape_notMem_json (d : Document) (p : Bool) : '\x1b' ∉ (d.json p).toList := by
  have hnewline (n : ℕ) : ∀ c ∈ Json.newline n, c ≠ '\x1b' := by
    intro c hc
    rcases List.mem_cons.mp hc with rfl | hc
    · decide
    · rw [List.eq_of_mem_replicate hc]
      decide
  have hP (c : Char) (hc : 0x20 ≤ c.toNat) : c ≠ '\x1b' := by
    rintro rfl
    exact absurd hc (by decide)
  rw [show (d.json p).toList = Json.written (Json.layout p) 0 d from String.toList_ofList]
  intro h
  cases p with
  | false =>
    exact Json.forall_written hP (by simp [Json.layout, Json.compact])
      (by simp [Json.layout, Json.compact]) (by simp [Json.layout, Json.compact]) d 0 _ h rfl
  | true =>
    refine Json.forall_written hP (fun n => hnewline _) (fun n => ?_) (fun n => hnewline _) d 0 _ h
      rfl
    exact List.forall_mem_cons.mpr ⟨by decide, hnewline (n + 1)⟩

lemma space_le_of_mem_json {d : Document} : ∀ c ∈ (d.json false).toList, 0x20 ≤ c.toNat := by
  rw [show (d.json false).toList = Json.written Json.compact 0 d from String.toList_ofList]
  exact Json.forall_written (fun _ h => h) (by simp [Json.compact]) (by simp [Json.compact])
    (by simp [Json.compact]) d 0

end ScenarioScript.Document
