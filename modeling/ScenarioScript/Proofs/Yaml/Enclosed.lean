import Mathlib.Tactic.IntervalCases
import ScenarioScript.Proofs.Yaml.Runs
import ScenarioScript.Yaml.Enclosed

namespace ScenarioScript.Yaml.Enclosed

open Scalar (isBreak isSolid isSpace spaces continued runs Past isOrdinary hasPair)

variable {double : Bool} {behind : Fault} {c : Char} {cs more : List Char}

lemma prependChars_prependChars (a b : List Char) (r : Except Fault (List Point × List Char)) :
    prependChars a (prependChars b r) = prependChars (a ++ b) r := by
  cases r with
  | error f => rfl
  | ok t => simp [prependChars, prepend, Point.chars, Except.map]

lemma prependChars_nil (r : Except Fault (List Point × List Char)) : prependChars [] r = r := by
  cases r <;> rfl

lemma prependChars_ok (a b : List Char) :
    prependChars a (.ok (Point.chars b, more)) = .ok (Point.chars (a ++ b), more) := by
  simp [prependChars, prepend, Point.chars, Except.map]

lemma prepend_ok (p : Point) (ps : List Point) :
    prepend [p] (.ok (ps, more)) = .ok (p :: ps, more) := rfl

def Opens (cs : List Char) : Prop :=
  ∃ c rest, cs = c :: rest ∧ isGap c = false ∧ isBreak c = false

lemma atSeparator_spaces {n : ℕ} (hn : 0 < n) (cs : List Char) :
    atSeparator (spaces n ++ cs) = false := by
  obtain ⟨m, rfl⟩ : ∃ m, n = m + 1 := ⟨n - 1, by omega⟩
  rfl

lemma isGap_of_isSolid (hs : isSolid c = true) (ht : c ≠ '\t') : isGap c = false := by
  simp [isGap, (Scalar.isSolid_iff.mp hs).1, ht]

inductive State.Open : State → Prop
  | text : Open .text
  | blanks (cs : List Char) : Open (.blanks cs)
  | breaks (first : Char) (further : List Char) : Open (.breaks first further)
  | joined (further : List Char) : Open (.joined further)

section Open

variable {s : State}

lemma readFrom_gap (h : s.Open) (hc : isGap c = true) :
    readFrom double behind s (c :: cs) = readFrom double behind (s.afterGap c) cs := by
  cases h <;> rw [readFrom.eq_def] <;> simp [hc]

lemma readFrom_break (h : s.Open) (hg : isGap c = false) (hb : isBreak c = true)
    (hs : atSeparator cs = false) :
    readFrom double behind s (c :: cs) = readFrom double behind (s.afterBreak c) cs := by
  cases h <;> rw [readFrom.eq_def] <;> simp [hg, hb, hs]

lemma readFrom_opens (h : s.Open) (hcs : Opens cs) :
    readFrom double behind s cs = prependChars s.held (readFrom double behind .text cs) := by
  obtain ⟨c, rest, rfl, hg, hb⟩ := hcs
  rw [readFrom.eq_def double behind .text]
  simp only [hg, hb, Bool.false_eq_true, if_false, State.held, prependChars_nil]
  cases h <;> rw [readFrom.eq_def] <;> simp [hg, hb, State.held]

end Open

lemma readFrom_blanks {bs : List Char} (h : ∀ d ∈ (cs.dropWhile isGap).head?, isBreak d = false)
    (hne : cs.dropWhile isGap ≠ []) : readFrom double behind (.blanks bs) cs =
      prependChars bs (readFrom double behind .text cs) := by
  induction cs generalizing bs with
  | nil => exact absurd rfl hne
  | cons c cs ih =>
    cases hg : isGap c with
    | true =>
      rw [List.dropWhile_cons_of_pos hg] at h hne
      have hblanks := @readFrom_gap double behind c cs _ (.blanks bs) hg
      have htext := @readFrom_gap double behind c cs _ .text hg
      rw [hblanks, htext, State.afterGap, State.afterGap, ih h hne, ih h hne,
        prependChars_prependChars]
    | false =>
      rw [List.dropWhile_cons_of_neg (by simp [hg])] at h
      exact readFrom_opens (.blanks bs) ⟨c, cs, rfl, hg, h c rfl⟩

lemma readFrom_breaks_spaces (first : Char) (further : List Char) (n : ℕ) :
    readFrom double behind (.breaks first further) (spaces n ++ cs) =
      readFrom double behind (.breaks first further) cs := by
  induction n with
  | zero => rfl
  | succ n ih => exact (readFrom_gap (.breaks first further) rfl).trans ih

lemma readFrom_continued {indent : ℕ} (hi : 0 < indent) (h : Opens cs) :
    readFrom double behind .text (continued indent ++ cs) =
      prependChars [' '] (readFrom double behind .text cs) := by
  have hbreak : readFrom double behind .text ('\n' :: (spaces indent ++ cs)) =
      readFrom double behind (.breaks '\n' []) (spaces indent ++ cs) :=
    readFrom_break .text rfl rfl (atSeparator_spaces hi cs)
  rw [continued, List.cons_append, hbreak, readFrom_breaks_spaces, readFrom_opens (.breaks _ _) h]
  rfl

lemma readFrom_feeds {indent : ℕ} (hi : 0 < indent) (further : List Char) (n : ℕ) (h : Opens cs) :
    readFrom double behind (.breaks '\n' further) (List.replicate n '\n' ++ (spaces indent ++ cs)) =
      prependChars (foldBreaks '\n' (further ++ List.replicate n '\n'))
        (readFrom double behind .text cs) := by
  induction n generalizing further with
  | zero =>
    rw [List.replicate_zero, List.append_nil, List.nil_append, readFrom_breaks_spaces,
      readFrom_opens (.breaks _ _) h, State.held]
  | succ n ih =>
    have hs : atSeparator (List.replicate n '\n' ++ (spaces indent ++ cs)) = false := by
      cases n with
      | zero => exact atSeparator_spaces hi cs
      | succ n => rfl
    have hstep : readFrom double behind (.breaks '\n' further)
        ('\n' :: (List.replicate n '\n' ++ (spaces indent ++ cs))) =
        readFrom double behind (.breaks '\n' (further ++ ['\n']))
          (List.replicate n '\n' ++ (spaces indent ++ cs)) :=
      readFrom_break (.breaks '\n' further) rfl rfl hs
    rw [List.replicate_succ, List.cons_append, hstep, ih]
    simp

lemma readFrom_text_feeds {indent n : ℕ} (hi : 0 < indent) (hn : 0 < n) (h : Opens cs) :
    readFrom double behind .text ('\n' :: (List.replicate n '\n' ++ (spaces indent ++ cs))) =
      prependChars (List.replicate n '\n') (readFrom double behind .text cs) := by
  obtain ⟨m, rfl⟩ : ∃ m, n = m + 1 := ⟨n - 1, by omega⟩
  have hbreak : readFrom double behind .text
        ('\n' :: (List.replicate (m + 1) '\n' ++ (spaces indent ++ cs))) =
      readFrom double behind (.breaks '\n' [])
        (List.replicate (m + 1) '\n' ++ (spaces indent ++ cs)) :=
    readFrom_break .text rfl rfl rfl
  rw [hbreak, readFrom_feeds hi [] _ h]
  rfl

section Single

lemma readFrom_quote :
    readFrom false behind .text ('\'' :: cs) = readFrom false behind .quote cs := by
  rw [readFrom.eq_def]
  simp [isGap, isBreak, State.held, prependChars_nil]

lemma readFrom_doubleQuotes {w : List Char} (hw : ∀ c ∈ w, isSolid c = true)
    (ht : '\t' ∉ w) :
    readFrom false behind .text (Scalar.doubleQuotes w ++ cs) =
      prependChars w (readFrom false behind .text cs) := by
  induction w with
  | nil => rw [prependChars_nil]; rfl
  | cons c w ih =>
    rw [List.mem_cons, not_or] at ht
    have hsolid := hw c (by simp)
    have hg := isGap_of_isSolid hsolid (Ne.symm ht.1)
    have hb := (Scalar.isSolid_iff.mp hsolid).2
    have ih := ih (fun d hd => hw d (by simp [hd])) ht.2
    rw [Scalar.doubleQuotes] at ih ⊢
    rw [List.flatMap_cons]
    by_cases hq : c = '\''
    · subst hq
      have hstep (cs : List Char) : readFrom false behind .text ('\'' :: '\'' :: cs) =
          prependChars ['\''] (readFrom false behind .text cs) := by
        rw [readFrom_quote, readFrom, if_pos rfl]
      simp only [if_true, List.cons_append, List.nil_append]
      rw [hstep, ih, prependChars_prependChars]
      rfl
    · have hstep (cs : List Char) : readFrom false behind .text (c :: cs) =
          prependChars [c] (readFrom false behind .text cs) := by
        rw [readFrom.eq_def]
        simp [hg, hb, hq, State.held, prependChars_nil]
      simp only [hq, if_false, List.cons_append, List.nil_append]
      rw [hstep, ih, prependChars_prependChars]
      rfl

lemma readFrom_single_end (h : more.head? ≠ some '\'') :
    readFrom false behind .text ('\'' :: more) = .ok ([], more) := by
  rw [readFrom_quote]
  cases more with
  | nil => rw [readFrom]
  | cons c more => rw [readFrom, if_neg (by simpa using h)]

lemma opens_doubleQuotes {w : List Char} (hne : w ≠ []) (hw : ∀ c ∈ w, isSolid c = true)
    (ht : '\t' ∉ w) : Opens (Scalar.doubleQuotes w ++ cs) := by
  obtain ⟨c, w, rfl⟩ := List.exists_cons_of_ne_nil hne
  have hsolid := hw c (by simp)
  have hg := isGap_of_isSolid hsolid (fun h => ht (by simp [h]))
  have hb := (Scalar.isSolid_iff.mp hsolid).2
  rw [Scalar.doubleQuotes, List.flatMap_cons]
  by_cases hq : c = '\''
  · exact ⟨c, _, by rw [if_pos hq]; rfl, hg, hb⟩
  · exact ⟨c, _, by rw [if_neg hq]; rfl, hg, hb⟩

lemma opens_singleChars {indent column : ℕ} {first : Bool} (hs : Past isSpace cs)
    (hb : Past isBreak cs) (ht : '\t' ∉ cs) :
    Opens (Scalar.singleChars indent column first (runs cs) ++ '\'' :: more) := by
  cases cs with
  | nil => exact ⟨'\'', more, rfl, rfl, rfl⟩
  | cons c cs =>
    have hsolid : isSolid c = true :=
      Scalar.isSolid_iff.mpr ⟨by simpa [isSpace] using hs c rfl, hb c rfl⟩
    obtain ⟨w, rest, he, hne, hw, hrest, -⟩ := Scalar.exists_front hsolid cs
    rw [he, List.mem_append, not_or] at ht
    rw [he, Scalar.runs_word hne hw hrest, Scalar.singleChars, List.append_assoc]
    exact opens_doubleQuotes hne hw ht.1

lemma dropWhile_isGap_of_opens (h : Opens cs) : cs.dropWhile isGap = cs := by
  obtain ⟨c, rest, rfl, hg, -⟩ := h
  exact List.dropWhile_cons_of_neg (by simp [hg])

lemma readFrom_spaces {n : ℕ} (hn : 0 < n) (h : Opens cs) :
    readFrom double behind .text (spaces n ++ cs) =
      prependChars (spaces n) (readFrom double behind .text cs) := by
  obtain ⟨m, rfl⟩ : ∃ m, n = m + 1 := ⟨n - 1, by omega⟩
  induction m with
  | zero =>
    have hdrop := dropWhile_isGap_of_opens h
    obtain ⟨c, rest, rfl, hg, hb⟩ := h
    exact (readFrom_gap .text rfl).trans (readFrom_blanks (by simp [hdrop, hb]) (by simp [hdrop]))
  | succ m ih =>
    have hdrop : (spaces (m + 1) ++ cs).dropWhile isGap = cs := by
      rw [List.dropWhile_append_of_pos, dropWhile_isGap_of_opens h]
      intro d hd
      rw [List.eq_of_mem_replicate hd]
      rfl
    have hblanks : readFrom double behind (.blanks [' ']) (spaces (m + 1) ++ cs) =
        prependChars [' '] (readFrom double behind .text (spaces (m + 1) ++ cs)) := by
      obtain ⟨c, rest, rfl, hg, hb⟩ := h
      exact readFrom_blanks (by simp [hdrop, hb]) (by simp [hdrop])
    have hstep : readFrom double behind .text (' ' :: (spaces (m + 1) ++ cs)) = _ :=
      (readFrom_gap .text rfl).trans hblanks
    rw [ih (by omega), prependChars_prependChars] at hstep
    exact hstep

lemma readFrom_singleChars {indent : ℕ} (hi : 0 < indent) (hmore : more.head? ≠ some '\'')
    (ht : '\t' ∉ cs) (hfeed : ∀ c ∈ cs, isBreak c = true → c = '\n')
    (hsb : hasPair isSpace isBreak cs = false) (hbs : hasPair isBreak isSpace cs = false)
    (column : ℕ) (first : Bool) :
    readFrom false behind .text (Scalar.singleChars indent column first (runs cs) ++ '\'' :: more) =
      .ok (Point.chars cs, more) := by
  induction cs using Scalar.runs_induction generalizing column first with
  | nil => exact readFrom_single_end hmore
  | word w rest hne hw hrest ih =>
    rw [List.mem_append, not_or] at ht
    rw [Scalar.runs_word hne hw hrest, Scalar.singleChars, List.append_assoc,
      readFrom_doubleQuotes hw ht.1,
      ih ht.2 (fun c hc => hfeed c (by simp [hc])) (Scalar.hasPair_of_append hsb)
        (Scalar.hasPair_of_append hbs), prependChars_ok]
  | space n rest hn hrest ih =>
    have htail : '\t' ∉ rest := fun h => ht (by simp [h])
    have hbreak : Past isBreak rest := Scalar.past_of_hasPair (w := spaces n)
      (by simp [spaces, Nat.ne_of_gt hn])
      (fun c hc => by simp [isSpace, List.eq_of_mem_replicate hc]) hsb
    have hopens (column : ℕ) (first : Bool) :
        Opens (Scalar.singleChars indent column first (runs rest) ++ '\'' :: more) :=
      opens_singleChars hrest hbreak htail
    have ih := ih htail (fun c hc => hfeed c (by simp [hc])) (Scalar.hasPair_of_append hsb)
      (Scalar.hasPair_of_append hbs)
    rw [Scalar.runs_spaces hn hrest, Scalar.singleChars]
    split
    · next hfold =>
      have hone : n = 1 := by simp at hfold; exact hfold.1.1.1
      rw [List.append_assoc, readFrom_continued hi (hopens _ _), ih, hone]
      rfl
    · rw [List.append_assoc, readFrom_spaces hn (hopens _ _), ih, prependChars_ok]
  | break_ w rest hne hw hrest ih =>
    have htail : '\t' ∉ rest := fun h => ht (by simp [h])
    have hspace : Past isSpace rest := Scalar.past_of_hasPair hne hw hbs
    have hw' : w = List.replicate w.length '\n' :=
      List.eq_replicate_of_mem fun c hc => hfeed c (by simp [hc]) (hw c hc)
    have hhead : w.head? = some '\n' := by
      obtain ⟨c, w, rfl⟩ := List.exists_cons_of_ne_nil hne
      rw [List.head?_cons, hfeed c (by simp) (hw c (by simp))]
    rw [Scalar.runs_breaks hne hw hrest, Scalar.singleChars, if_pos hhead, hw']
    simp only [List.append_assoc, List.cons_append, List.nil_append]
    rw [readFrom_text_feeds hi (List.length_pos_iff.mpr hne)
        (opens_singleChars hspace hrest htail),
      ih htail (fun c hc => hfeed c (by simp [hc])) (Scalar.hasPair_of_append hsb)
        (Scalar.hasPair_of_append hbs), prependChars_ok]

end Single

section Double

lemma readFrom_backslash :
    readFrom true behind .text ('\\' :: cs) = readFrom true behind .escape cs := by
  rw [readFrom.eq_def]
  simp [isGap, isBreak, State.held, prependChars_nil]

lemma readFrom_joined_spaces (n : ℕ) :
    readFrom true behind (.joined []) (spaces n ++ cs) = readFrom true behind (.joined []) cs := by
  induction n with
  | zero => rfl
  | succ n ih => exact (readFrom_gap (.joined []) rfl).trans ih

lemma readFrom_folded {indent : ℕ} (hi : 0 < indent) (h : Opens cs) :
    readFrom true behind .text ('\\' :: (continued indent ++ cs)) =
      readFrom true behind .text cs := by
  have hescape : readFrom true behind .escape ('\n' :: (spaces indent ++ cs)) =
      readFrom true behind (.joined []) (spaces indent ++ cs) := by
    rw [readFrom, if_pos (by decide), if_neg (by simp [atSeparator_spaces hi])]
  have hjoined : readFrom true behind (.joined []) cs = readFrom true behind .text cs := by
    rw [readFrom_opens (.joined []) h, State.held, prependChars_nil]
  rw [readFrom_backslash, continued, List.cons_append, hescape, readFrom_joined_spaces, hjoined]

lemma readFrom_short {e : Char} (he : (c, e) ∈ Scalar.shortEscapes) :
    readFrom true behind .text ('\\' :: e :: cs) =
      prepend [.char c] (readFrom true behind .text cs) := by
  have hall : ∀ p ∈ Scalar.shortEscapes, isBreak p.2 = false ∧ shortEscape? p.2 = some p.1 := by
    decide
  obtain ⟨hb, hs⟩ := hall _ he
  rw [readFrom_backslash, readFrom]
  simp only [hb, hs, Bool.false_eq_true, if_false]
  rfl

lemma hexValue?_toUpper {n : ℕ} (h : n < 16) :
    hexValue? (Nat.digitChar n).toUpper = some n := by
  interval_cases n <;> rfl

lemma readFrom_hex_digits {width : ℕ} {n : ℕ} (hn : n < 16 ^ width) (owed code : ℕ) (ho : 0 < owed) :
    readFrom true behind (.hex (width + owed) code) (Scalar.upperHex width n ++ cs) =
      readFrom true behind (.hex owed (16 ^ width * code + n)) cs := by
  induction width generalizing n owed cs with
  | zero =>
    obtain rfl : n = 0 := by simpa using hn
    simp [Scalar.upperHex, Text.hexDigits]
  | succ width ih =>
    have hlt : n / 16 < 16 ^ width := by
      rw [Nat.pow_succ] at hn
      omega
    have hdigits : Scalar.upperHex (width + 1) n ++ cs =
        Scalar.upperHex width (n / 16) ++ ((Nat.digitChar (n % 16)).toUpper :: cs) := by
      simp [Scalar.upperHex, Text.hexDigits]
    have hcode : 16 * (16 ^ width * code + n / 16) + n % 16 = 16 ^ (width + 1) * code + n := by
      rw [Nat.mul_add, Nat.add_assoc, Nat.div_add_mod, ← Nat.mul_assoc, Nat.pow_succ,
        Nat.mul_comm (16 ^ width)]
    rw [hdigits, Nat.add_assoc, Nat.add_comm 1, ih hlt (owed + 1) (by omega), readFrom,
      hexValue?_toUpper (Nat.mod_lt _ (by decide))]
    simp only [show 1 < owed + 1 by omega, if_true, hcode, Nat.add_sub_cancel]

lemma ofCode_toNat (c : Char) : ofCode c.toNat = .ok (.char c) := by
  have hvalid : c.toNat < 0xD800 ∨ 0xDFFF < c.toNat ∧ c.toNat < 0x110000 := c.valid
  rw [ofCode, dif_neg (by omega), if_pos (by omega), Char.ofNat_toNat]

lemma ofCode_surrogate (n : Fin 0x800) : ofCode (Point.firstSurrogate + n) = .ok (.surrogate n) := by
  rw [ofCode, Point.firstSurrogate, dif_pos (by omega)]
  simp only [Nat.add_sub_cancel_left, Fin.eta]

lemma readFrom_hex {width n : ℕ} {p : Point} (hp : ofCode n = .ok p) (h : n < 16 ^ (width + 1)) :
    readFrom true behind (.hex (width + 1) 0) (Scalar.upperHex (width + 1) n ++ cs) =
      prepend [p] (readFrom true behind .text cs) := by
  have hlt : n / 16 < 16 ^ width := by
    rw [Nat.pow_succ] at h
    omega
  have hdigits : Scalar.upperHex (width + 1) n ++ cs =
      Scalar.upperHex width (n / 16) ++ ((Nat.digitChar (n % 16)).toUpper :: cs) := by
    simp [Scalar.upperHex, Text.hexDigits]
  rw [hdigits, readFrom_hex_digits hlt 1 0 (by decide), readFrom,
    hexValue?_toUpper (Nat.mod_lt _ (by decide))]
  simp [Nat.div_add_mod, hp]

lemma readFrom_long {letter : Char} {width n : ℕ} {p : Point} (hletter : isBreak letter = false)
    (hshort : shortEscape? letter = none) (howed : longEscape? letter = some (width + 1))
    (hp : ofCode n = .ok p) (hlt : n < 16 ^ (width + 1)) :
    readFrom true behind .text ('\\' :: letter :: (Scalar.upperHex (width + 1) n ++ cs)) =
      prepend [p] (readFrom true behind .text cs) := by
  rw [readFrom_backslash, readFrom]
  simp only [hletter, hshort, howed, Bool.false_eq_true, if_false, readFrom_hex hp hlt]

lemma readFrom_escape (c : Char) :
    readFrom true behind .text (Scalar.escape c ++ cs) =
      prepend [.char c] (readFrom true behind .text cs) := by
  unfold Scalar.escape
  split
  · next e he =>
    have hmem : (c, e) ∈ Scalar.shortEscapes := by
      obtain ⟨l, l', hl, -⟩ := List.lookup_eq_some_iff.mp he
      simp [hl]
    exact readFrom_short hmem
  · have hvalid : c.toNat < 0xD800 ∨ 0xDFFF < c.toNat ∧ c.toNat < 0x110000 := c.valid
    split
    · exact readFrom_long rfl (by decide) rfl (ofCode_toNat c) (by omega)
    · split
      · exact readFrom_long rfl (by decide) rfl (ofCode_toNat c) (by omega)
      · exact readFrom_long rfl (by decide) rfl (ofCode_toNat c) (by omega)

lemma readFrom_pointEscape (p : Point) :
    readFrom true behind .text (Scalar.pointEscape p ++ cs) =
      prepend [p] (readFrom true behind .text cs) := by
  cases p with
  | char c => exact readFrom_escape c
  | surrogate n =>
    have hlt : Point.firstSurrogate + n < 16 ^ 4 := by
      rw [Point.firstSurrogate]
      omega
    exact readFrom_long rfl (by decide) rfl (ofCode_surrogate n) hlt

def Sheltered (cs : List Char) : Prop :=
  ∃ c ∈ (cs.dropWhile isGap).head?, isBreak c = false

lemma readFrom_space (h : Sheltered cs) :
    readFrom double behind .text (' ' :: cs) =
      prependChars [' '] (readFrom double behind .text cs) := by
  obtain ⟨c, hc, hb⟩ := h
  refine (readFrom_gap .text rfl).trans (readFrom_blanks (fun d hd => ?_) fun hne => ?_)
  · rwa [← Option.some.inj (hc.symm.trans hd)]
  · simp [hne] at hc

lemma sheltered_of_opens (h : Opens cs) : Sheltered cs := by
  have hdrop := dropWhile_isGap_of_opens h
  obtain ⟨c, rest, rfl, -, hb⟩ := h
  exact ⟨c, by rw [hdrop]; rfl, hb⟩

lemma pointEscape_eq_cons (p : Point) : ∃ rest, Scalar.pointEscape p = '\\' :: rest := by
  cases p with
  | surrogate n => exact ⟨_, rfl⟩
  | char c =>
    rw [Scalar.pointEscape]
    unfold Scalar.escape
    split
    · exact ⟨_, rfl⟩
    · split
      · exact ⟨_, rfl⟩
      · split <;> exact ⟨_, rfl⟩

lemma raw?_eq_some {p : Point} : Scalar.raw? p = some c ↔ p = .char c ∧ Scalar.isRaw c = true := by
  cases p with
  | surrogate n => simp [Scalar.raw?]
  | char d =>
    simp only [Scalar.raw?, Option.ite_none_right_eq_some, Option.some.injEq, Point.char.injEq]
    exact ⟨fun ⟨hr, h⟩ => ⟨h, h ▸ hr⟩, fun ⟨h, hr⟩ => ⟨h ▸ hr, h⟩⟩

lemma opens_of_isRaw (hr : Scalar.isRaw c = true) (hs : c ≠ ' ') : Opens (c :: cs) := by
  have hnot {d : Char} (hd : Scalar.isRaw d = false) : c ≠ d := by
    rintro rfl
    simp [hd] at hr
  refine ⟨c, cs, rfl, ?_, ?_⟩
  · simp [isGap, hs, hnot (d := '\t') rfl]
  · simp [isBreak, hnot (d := '\n') rfl, hnot (d := '\u0085') rfl, hnot (d := '\u2028') rfl,
      hnot (d := '\u2029') rfl]

section Written

variable {indent column : ℕ} {first escaped : Bool} {ps : List Point}

lemma doubleChars_cons (indent column : ℕ) (first escaped : Bool) (p : Point) (ps : List Point) :
    (∃ c column', p = .char c ∧ Scalar.isRaw c = true ∧
      Scalar.doubleChars indent column first escaped (p :: ps) =
        c :: Scalar.doubleChars indent column' false false ps) ∨
    (p = .char ' ' ∧ ∃ column', Scalar.doubleChars indent column first escaped (p :: ps) =
      '\\' :: (continued indent ++
        '\\' :: ' ' :: Scalar.doubleChars indent column' false false ps)) ∨
    (∃ c column', p = .char c ∧ Scalar.isRaw c = true ∧ c ≠ ' ' ∧
      Scalar.doubleChars indent column first escaped (p :: ps) =
        '\\' :: (continued indent ++ c :: Scalar.doubleChars indent column' false false ps)) ∨
    (∃ column', Scalar.doubleChars indent column first escaped (p :: ps) =
      Scalar.pointEscape p ++ Scalar.doubleChars indent column' false true ps) ∨
    (ps.head? = some (.char ' ') ∧ Scalar.doubleChars indent column first escaped (p :: ps) =
      Scalar.pointEscape p ++ '\\' :: (continued indent ++
        '\\' :: Scalar.doubleChars indent (indent + 1) false true ps)) ∨
    (ps.head? ≠ some (.char ' ') ∧ Scalar.doubleChars indent column first escaped (p :: ps) =
      Scalar.pointEscape p ++ '\\' :: (continued indent ++
        Scalar.doubleChars indent indent false true ps)) := by
  rw [Scalar.doubleChars]
  cases hraw : Scalar.raw? p with
  | some c =>
    obtain ⟨rfl, hr⟩ := raw?_eq_some.mp hraw
    simp only []
    split_ifs with hfold hs
    · subst hs
      exact .inr (.inl ⟨rfl, _, by simp; rfl⟩)
    · exact .inr (.inr (.inl ⟨c, _, rfl, hr, hs, by simp; rfl⟩))
    · exact .inl ⟨c, _, rfl, hr, rfl⟩
  | none =>
    simp only []
    split_ifs with hfold hs
    · exact .inr (.inr (.inr (.inr (.inl ⟨hs, by simp⟩))))
    · exact .inr (.inr (.inr (.inr (.inr ⟨hs, by simp⟩))))
    · exact .inr (.inr (.inr (.inl ⟨_, rfl⟩)))

lemma doubleChars_space (h : column ≤ Scalar.width) (ps : List Point) :
    Scalar.doubleChars indent column first escaped (.char ' ' :: ps) =
      ' ' :: Scalar.doubleChars indent (column + 1) false false ps := by
  have hraw : Scalar.raw? (.char ' ') = some ' ' := rfl
  rw [Scalar.doubleChars, hraw]
  simp [Nat.not_lt.mpr h]

lemma opens_doubleChars (hs : ps.head? ≠ some (.char ' ')) :
    Opens (Scalar.doubleChars indent column first escaped ps ++ '"' :: more) := by
  cases ps with
  | nil => exact ⟨'"', more, rfl, rfl, rfl⟩
  | cons p ps =>
    have hs : p ≠ .char ' ' := by simpa using hs
    obtain ⟨rest, he⟩ := pointEscape_eq_cons p
    rcases doubleChars_cons indent column first escaped p ps with
      ⟨c, _, rfl, hr, h⟩ | ⟨hc, -⟩ | ⟨c, _, -, -, -, h⟩ | ⟨_, h⟩ | ⟨-, h⟩ | ⟨-, h⟩
    · rw [h]
      exact opens_of_isRaw hr fun hc => hs (congrArg Point.char hc)
    · exact absurd hc hs
    · exact ⟨'\\', _, by rw [h]; rfl, rfl, rfl⟩
    · exact ⟨'\\', _, by rw [h, he]; rfl, rfl, rfl⟩
    · exact ⟨'\\', _, by rw [h, he]; rfl, rfl, rfl⟩
    · exact ⟨'\\', _, by rw [h, he]; rfl, rfl, rfl⟩

lemma sheltered_doubleChars (indent column : ℕ) (first escaped : Bool) (ps : List Point)
    (more : List Char) :
    Sheltered (Scalar.doubleChars indent column first escaped ps ++ '"' :: more) := by
  induction ps generalizing column first escaped with
  | nil => exact ⟨'"', rfl, rfl⟩
  | cons p ps ih =>
    by_cases hs : p = .char ' '
    · subst hs
      have hraw : Scalar.raw? (.char ' ') = some ' ' := rfl
      rw [Scalar.doubleChars, hraw]
      simp only []
      split
      · exact ⟨'\\', rfl, rfl⟩
      · exact ih _ _ _
    · exact sheltered_of_opens (opens_doubleChars (by simpa using hs))

lemma readFrom_kept :
    readFrom true behind .text ('\\' :: ' ' :: cs) =
      prepend [.char ' '] (readFrom true behind .text cs) := by
  rw [readFrom_backslash, readFrom]
  simp only [isBreak, shortEscape?]
  rfl

lemma readFrom_raw (hr : Scalar.isRaw c = true) (h : Sheltered cs) :
    readFrom true behind .text (c :: cs) = prepend [.char c] (readFrom true behind .text cs) := by
  by_cases hs : c = ' '
  · rw [hs, readFrom_space h]
    rfl
  · have hopens : Opens (c :: cs) := opens_of_isRaw hr hs
    obtain ⟨d, rest, he, hg, hb⟩ := hopens
    obtain ⟨rfl, rfl⟩ := List.cons.inj he
    have hq : c ≠ '"' := by rintro rfl; exact absurd hr (by decide)
    have hbackslash : c ≠ '\\' := by rintro rfl; exact absurd hr (by decide)
    rw [readFrom.eq_def]
    simp [hg, hb, hq, hbackslash, State.held, prependChars_nil]
    rfl

lemma readFrom_doubleChars (hi : 0 < indent) (hwidth : indent < Scalar.width) :
    readFrom true behind .text (Scalar.doubleChars indent column first escaped ps ++ '"' :: more) =
      .ok (ps, more) := by
  have hkept (cs : List Char) : Opens ('\\' :: cs) := ⟨_, _, rfl, rfl, rfl⟩
  induction ps generalizing column first escaped with
  | nil =>
    rw [Scalar.doubleChars, List.nil_append, readFrom.eq_def]
    simp [isGap, isBreak, State.held, prependChars_nil]
  | cons p ps ih =>
    have hshelter (column : ℕ) (escaped : Bool) :=
      sheltered_doubleChars indent column false escaped ps more
    rcases doubleChars_cons indent column first escaped p ps with
      ⟨c, _, rfl, hr, h⟩ | ⟨rfl, _, h⟩ | ⟨c, _, rfl, hr, hs, h⟩ | ⟨_, h⟩ | ⟨hs, h⟩ | ⟨hs, h⟩
    all_goals
      rw [h]
      simp only [List.cons_append, List.append_assoc]
    · rw [readFrom_raw hr (hshelter _ _), ih, prepend_ok]
    · rw [readFrom_folded hi (hkept _), readFrom_kept, ih, prepend_ok]
    · rw [readFrom_folded hi (opens_of_isRaw hr hs), readFrom_raw hr (hshelter _ _), ih, prepend_ok]
    · rw [readFrom_pointEscape, ih, prepend_ok]
    · obtain ⟨ps, rfl⟩ : ∃ t, ps = .char ' ' :: t := by
        cases ps with
        | nil => simp at hs
        | cons q t => exact ⟨t, by simpa using hs⟩
      have hspace := @doubleChars_space indent (indent + 1) false true hwidth ps
      have ih := @ih (indent + 1) false true
      rw [hspace, List.cons_append, readFrom_space (sheltered_doubleChars ..)] at ih
      rw [readFrom_pointEscape, readFrom_folded hi (hkept _), hspace, List.cons_append,
        readFrom_kept]
      exact (congrArg (prepend [p]) ih).trans (prepend_ok ..)
    · rw [readFrom_pointEscape, readFrom_folded hi (opens_doubleChars hs), ih, prepend_ok]

end Written

end Double

end ScenarioScript.Yaml.Enclosed
