import Mathlib.Data.List.DropRight
import ScenarioScript.Proofs.Lexeme.Order
import ScenarioScript.Proofs.Lexeme.Tidy
import ScenarioScript.Proofs.Lexeme.Word
import ScenarioScript.Proofs.Walk.Lexeme

/-! The tokens of a line cover it: each has a stretch of its own, and no character that always starts
a lexeme is outside of all of them. -/

namespace ScenarioScript

namespace Token

def Remark (cs : List Char) : Prop :=
  ∃ blanks rest, cs = blanks ++ rest ∧ (∀ c ∈ blanks, Text.isBlank c = true) ∧
    (rest = [] ∨ ['#'] <+: rest ∨ ['/', '/'] <+: rest)

lemma isComment_cons {c : Char} (hc : Text.isBlank c = false) (cs : List Char) :
    isComment (c :: cs) = true ↔ c = '#' ∨ c = '/' ∧ ['/'] <+: cs := by
  have htrim : Text.trim (c :: cs) = c :: Text.trimRight cs := by
    rw [Text.trim, Text.trimLeft, List.dropWhile_cons_of_neg (by simp [hc]), Text.trimRight_cons hc]
  have hslash : ['/'] <+: Text.trimRight cs ↔ ['/'] <+: cs := by
    refine ⟨fun h => h.trans (List.rdropWhile_prefix Text.isBlank cs), ?_⟩
    rintro ⟨rest, rfl⟩
    exact ⟨Text.trimRight rest, (Text.trimRight_cons rfl rest).symm⟩
  rw [← hslash, isComment, htrim]
  split
  · next h => simp at h
  · next h => simp [(List.cons.inj h).1]
  · next rest h =>
    obtain ⟨rfl, hrest⟩ := List.cons.inj h
    simp [hrest]
  · next hsharp hslashes =>
    refine iff_of_false (by simp) ?_
    rintro (rfl | ⟨rfl, rest, hrest⟩)
    · exact hsharp _ rfl
    · exact hslashes rest (by rw [← hrest]; rfl)

lemma isComment_iff (cs : List Char) : isComment cs = true ↔ Remark cs := by
  constructor
  · intro h
    have hblanks : ∀ c ∈ cs.takeWhile Text.isBlank, Text.isBlank c = true :=
      fun c hc => List.mem_takeWhile_imp hc
    have hhead := List.head?_dropWhile_not Text.isBlank cs
    refine ⟨_, _, List.takeWhile_append_dropWhile.symm, hblanks, ?_⟩
    rw [← List.takeWhile_append_dropWhile (p := Text.isBlank) (l := cs),
      isComment_blanks hblanks] at h
    cases hrest : cs.dropWhile Text.isBlank with
    | nil => exact .inl rfl
    | cons c rest =>
      have hc : Text.isBlank c = false := by
        rw [hrest] at hhead
        exact hhead
      rw [hrest, isComment_cons hc] at h
      rcases h with rfl | ⟨rfl, hslash⟩
      · exact .inr (.inl ⟨rest, rfl⟩)
      · exact .inr (.inr ((List.prefix_cons_inj _).mpr hslash))
  · rintro ⟨blanks, rest, rfl, hblanks, rfl | ⟨rest, rfl⟩ | ⟨rest, rfl⟩⟩
    · rw [isComment_blanks hblanks]
      rfl
    · rw [isComment_blanks hblanks]
      exact (isComment_cons (by decide) rest).mpr (.inl rfl)
    · rw [isComment_blanks hblanks]
      exact (isComment_cons (by decide) ('/' :: rest)).mpr (.inr ⟨rfl, rest, rfl⟩)

end Token

namespace Lexeme

def Idle (c : Char) : Prop :=
  Text.isLetter c = false ∧ c.isDigit = false ∧ c ∉ ['_', '"', '[', '{', '}']

lemma idle_of_isBlank {c : Char} (hc : Text.isBlank c = true) : Idle c := by
  have hword : isWordChar c = false := isWordChar_of_isBlank hc
  simp only [isWordChar, Bool.or_eq_false_iff] at hword
  refine ⟨hword.1.1, isDigit_of_isBlank hc, ?_⟩
  rintro h
  simp only [List.mem_cons, List.not_mem_nil, or_false] at h
  rcases h with rfl | rfl | rfl | rfl | rfl <;> exact absurd hc (by decide)

lemma not_idle_of_letter {c : Char} (hc : Text.isLetter c = true ∨ c = '_') : ¬Idle c := by
  intro hidle
  rcases hc with hletter | rfl
  · simp [hidle.1] at hletter
  · exact hidle.2.2 (by simp)

lemma idle_of_reach {c : Char} {cs : List Char} (h : (reach c cs).1 = none) :
    Idle c ∧ (reach c cs).2 = [] := by
  unfold reach at h ⊢
  split_ifs at h ⊢ with hblank hquote htarget harray hopen hclose hnumber hletter
  · exact ⟨idle_of_isBlank hblank, rfl⟩
  · simp only [Bool.or_eq_true, decide_eq_true_eq, not_or, Bool.not_eq_true] at hnumber hletter
    exact ⟨⟨hletter.1, hnumber.1, by simp [hletter.2, hquote, harray, hopen, hclose]⟩, rfl⟩

def stop (cs : List Char) (i : ℕ) : ℕ :=
  match cs.drop i with
  | [] => i
  | c :: ds => i + 1 + (reach c ds).2.length

lemma stop_append {c : Char} {tail rest : List Char} (h : (reach c (tail ++ rest)).2 = tail)
    (pre : List Char) :
    stop (pre ++ c :: (tail ++ rest)) pre.length = pre.length + (c :: tail).length := by
  rw [stop, List.drop_left, List.length_cons, Nat.add_comm tail.length, ← Nat.add_assoc]
  simp only [h]

end Lexeme

namespace Token

open Lexeme

variable {cs : List Char} {start : ℕ} {stop : Token → ℕ} {ts : List Token} {t : Token}

/-- Each token reaches from its column up to its stop. They are on the line from `start` on and do
not overlap, and between them all is idle. -/
structure Covers (cs : List Char) (start : ℕ) (stop : Token → ℕ) (ts : List Token) : Prop where
  inside : ∀ t ∈ ts, start ≤ t.column ∧ t.column < stop t ∧ stop t ≤ cs.length
  apart : ts.Pairwise fun t u => stop t ≤ u.column
  idle : ∀ i c, start ≤ i → cs[i]? = some c → (∀ t ∈ ts, i < t.column ∨ stop t ≤ i) → Idle c

lemma Covers.nil (h : cs.length ≤ start) : Covers cs start stop [] where
  inside := by simp
  apart := .nil
  idle i c hi hc := by
    have hlt : i < cs.length := (List.getElem?_eq_some_iff.mp hc).1
    omega

lemma Covers.skip {c : Char} (h : Covers cs (start + 1) stop ts) (hc : cs[start]? = some c)
    (hidle : Idle c) : Covers cs start stop ts where
  inside t ht := by
    obtain ⟨hstart, hstop⟩ := h.inside t ht
    exact ⟨by omega, hstop⟩
  apart := h.apart
  idle i d hi hd houtside := by
    rcases hi.eq_or_lt with rfl | hi
    · rw [hc] at hd
      exact Option.some.inj hd ▸ hidle
    · exact h.idle i d hi hd houtside

lemma Covers.cons (h : Covers cs (stop t) stop ts) (hlt : t.column < stop t)
    (hle : stop t ≤ cs.length) : Covers cs t.column stop (t :: ts) where
  inside := by
    refine List.forall_mem_cons.mpr ⟨⟨le_rfl, hlt, hle⟩, fun u hu => ?_⟩
    obtain ⟨hstart, hstop⟩ := h.inside u hu
    exact ⟨by omega, hstop⟩
  apart := List.pairwise_cons.mpr ⟨fun u hu => (h.inside u hu).1, h.apart⟩
  idle i c hi hc houtside := by
    obtain ⟨ht, hts⟩ := List.forall_mem_cons.mp houtside
    exact h.idle i c (by omega) hc hts

lemma Covers.stop_le {u : Token} (h : Covers cs start stop ts) (ht : t ∈ ts) (hu : u ∈ ts)
    (hlt : t.column < u.column) : stop t ≤ u.column := by
  have hforward : ts.Pairwise fun t u => t.column < u.column → stop t ≤ u.column := by
    apply h.apart.imp
    intro t u hstop _
    exact hstop
  have hback : ts.Pairwise fun t u => u.column < t.column → stop u ≤ t.column := by
    apply h.apart.imp_of_mem
    intro t u ht _ hstop hlt
    have hinside := (h.inside t ht).2.1
    omega
  exact hforward.forall_of_forall_of_flip (fun t _ hlt => absurd hlt (lt_irrefl _)) hback ht hu hlt

lemma Covers.exists_mem {i : ℕ} {c : Char} (h : Covers cs start stop ts) (hi : start ≤ i)
    (hc : cs[i]? = some c) (hbusy : ¬Idle c) : ∃ t ∈ ts, t.column ≤ i ∧ i < stop t := by
  by_contra hnone
  refine hbusy (h.idle i c hi hc fun t ht => ?_)
  by_contra hbetween
  exact hnone ⟨t, ht, by omega, by omega⟩

lemma covers_ofChars (line : ℤ) (pre cs : List Char) :
    Covers (pre ++ cs) pre.length (fun t => Lexeme.stop (pre ++ cs) t.column)
      (ofChars line pre.length cs) := by
  induction pre, cs using reach_induction with
  | nil pre =>
    rw [ofChars_nil]
    exact .nil (by simp)
  | cons pre c tail rest htail ih =>
    have hstop := stop_append htail pre
    rw [List.append_assoc, List.cons_append, List.length_append] at ih
    rw [ofChars_reach htail]
    cases hk : (reach c (tail ++ rest)).1 with
    | none =>
      -- What starts no lexeme is passed by alone.
      obtain ⟨hidle, hnil⟩ := idle_of_reach hk
      obtain rfl := htail.symm.trans hnil
      exact ih.skip (by simp) hidle
    | some kind =>
      rw [← hstop] at ih ⊢
      refine Covers.cons (t := ⟨kind, _, line, pre.length⟩) ih ?_ ?_
      · change pre.length < Lexeme.stop (pre ++ c :: (tail ++ rest)) pre.length
        rw [hstop, List.length_cons]
        omega
      · rw [hstop, List.length_append, List.length_cons, List.length_cons, List.length_append]
        omega

lemma covers_ofLine {s : String} (line : ℤ) (hplain : ¬Remark s.toList) :
    Covers s.toList 0 (fun t => Lexeme.stop s.toList t.column) (ofLine line s) := by
  rw [ofLine, if_neg (mt (isComment_iff _).mp hplain)]
  exact covers_ofChars line [] s.toList

lemma not_remark_of_mem_ofLine {line : ℤ} {s : String} (ht : t ∈ ofLine line s) :
    ¬Remark s.toList := by
  intro hremark
  rw [ofLine, if_pos ((isComment_iff _).mpr hremark)] at ht
  simp at ht

/-- What a token has as its text is what stands on the line, but for the sign of a target id. What a
string stands for may be spelled in other characters; it starts at its opening quote. -/
def Spells (t : Token) (source : String) : Prop :=
  match t.kind with
  | .string => source.toList.head? = some '"'
  | .targetId => source = "#" ++ t.text
  | _ => source = t.text

end Token

namespace Walk

open Lexeme

variable {n : ℤ} {s : String} {t : Token}

lemma lexemeAt_of_mem_ofLine (ht : t ∈ Token.ofLine n s) :
    lexemeAt n s.toList t.column = pure (some t, Lexeme.stop s.toList t.column) := by
  obtain ⟨pre, c, tail, rest, kind, hs, hreach, rfl⟩ := Token.exists_reach_of_mem_ofLine ht
  have hstop := stop_append (Prod.ext_iff.mp hreach).2 pre
  rw [hs, lexemeAt_append, hstop, lexeme, hreach, List.length_cons, Nat.add_assoc, Nat.add_comm 1]
  rfl

lemma spells_of_mem_ofLine (ht : t ∈ Token.ofLine n s) :
    t.Spells (slice s.toList t.column (Lexeme.stop s.toList t.column)) := by
  obtain ⟨pre, c, tail, rest, kind, hs, hreach, rfl⟩ := Token.exists_reach_of_mem_ofLine ht
  have hsource : slice s.toList pre.length (Lexeme.stop s.toList pre.length) =
      String.ofList (c :: tail) := by
    rw [hs, stop_append (Prod.ext_iff.mp hreach).2 pre]
    exact slice_append pre (c :: tail) rest
  dsimp only
  rw [hsource, Token.Spells]
  have hreaches := reaches_of_reach hreach
  generalize tail ++ rest = cs at hreaches
  cases hreaches with
  | string => rw [String.toList_ofList, List.head?_cons]
  | targetId => exact String.ofList_cons
  | _ => rfl

/-- The tokens of a line cover it, and each is what the line has between its column and its stop;
only remarks have none. The tokens of several lines are in the order of their places. -/
theorem tokens_cover (c : Cursor) :
    (∀ (n : ℤ) (s : String), ∃ ts, (lineTokens n s).on c = (.ok ts, c) ∧
      (Token.Remark s.toList → ts = []) ∧
      (¬Token.Remark s.toList → ∃ stop : Token → ℕ, Token.Covers s.toList 0 stop ts ∧
        ∀ t ∈ ts, (lexemeAt n s.toList t.column).on c = (.ok (some t, stop t), c) ∧
          t.Spells (slice s.toList t.column (stop t)))) ∧
    ∀ lines : List String, ∃ ts, (tokens lines).on c = (.ok ts, c) ∧
      ts.Pairwise (·.place < ·.place) ∧ ∀ t ∈ ts, 1 ≤ t.line ∧ t.line ≤ lines.length := by
  refine ⟨fun n s => ⟨Token.ofLine n s, by rw [lineTokens_eq, on_pure], fun hremark => ?_,
    fun hplain => ⟨_, Token.covers_ofLine n hplain, fun t ht => ?_⟩⟩, fun lines => ?_⟩
  · rw [Token.ofLine, if_pos ((Token.isComment_iff _).mpr hremark)]
  · exact ⟨by rw [lexemeAt_of_mem_ofLine ht, on_pure], spells_of_mem_ofLine ht⟩
  · refine ⟨Token.ofLines lines, by rw [tokens_eq, on_pure], Token.pairwise_ofLinesFrom 1 lines, ?_⟩
    intro t ht
    have hlast := Token.line_lt_of_mem_ofLinesFrom t ht
    exact ⟨Token.line_le_of_mem_ofLinesFrom t ht, by omega⟩

end Walk

end ScenarioScript
