import Mathlib.Logic.Relation
import ScenarioScript.Proofs.Yaml.Enclosed
import ScenarioScript.Proofs.Yaml.Unquoted
import ScenarioScript.Yaml.Symbols

/-! How the symbols of a text are found one after another. A symbol is looked for behind the blanks
that stand in front of it, and when the blocks are ended that lie to its right. -/

namespace ScenarioScript.Yaml.Progress

open Scalar (isBreak isBlank spaces blankAhead)

variable {s t : Progress} {rest : List Char} {p : Place} {indents : List ℕ} {symbols : List Symbol}
  {i k : ℕ} {allowed : Bool} {spot : Option Spot}

def Steps : Progress → Progress → Prop :=
  Relation.ReflTransGen fun s t => s.step none = .ok t ∧ t.rest.length < s.rest.length

lemma Steps.single (h : s.step none = .ok t) (hlt : t.rest.length < s.rest.length) : Steps s t :=
  Relation.ReflTransGen.single ⟨h, hlt⟩

lemma run_eq_of_steps (h : Steps s t) : s.run none = t.run none := by
  induction h with
  | refl => rfl
  | tail _ hstep ih =>
    rw [ih]
    conv_lhs => rw [run.eq_def]
    simp only [hstep.1, dif_pos hstep.2]

section Gap

lemma gap_start (h : SymbolStart rest) : gap false rest = (0, false) := by
  cases rest with
  | nil => rfl
  | cons c cs =>
    have hspace : c ≠ ' ' := by simpa [Scalar.isSpace] using h.space c rfl
    have hcomment : c ≠ '#' := by simpa using h.comment
    simp [gap, h.break_ c rfl, hspace, hcomment]

lemma gap_spaces (h : SymbolStart rest) (k : ℕ) : gap false (spaces k ++ rest) = (k, false) := by
  induction k with
  | zero => exact gap_start h
  | succ k ih =>
    have hgap : gap false (' ' :: (spaces k ++ rest)) = (k + 1, false) := by
      simp [gap, isBreak, ih]
    exact hgap

lemma gap_line (h : SymbolStart rest) (k : ℕ) :
    gap false ('\n' :: (spaces k ++ rest)) = (k + 1, true) := by
  simp [gap, isBreak, gap_spaces h k]

lemma skipGap_eq {front : List Char} {broken : Bool} (hs : s.rest = front ++ rest)
    (hmark : s.rest.head? ≠ some '\ufeff') (hgap : gap false s.rest = (front.length, broken)) :
    s.skipGap = { s with
      rest := rest
      place := s.place.after front
      keyAllowed := s.keyAllowed || (broken && !s.inFlow) } := by
  obtain ⟨text, place, indents, spot, outer, allowed, symbols⟩ := s
  obtain rfl : text = front ++ rest := hs
  have hforward : forward ⟨front ++ rest, place, indents, spot, outer, allowed, symbols⟩ 0 =
      ⟨front ++ rest, place, indents, spot, outer, allowed, symbols⟩ := rfl
  simp only at hmark hgap
  simp only [skipGap, hmark, decide_false, Bool.and_false, Bool.false_eq_true, if_false, hforward,
    hgap]
  simp [forward, inFlow]

end Gap

def settle (s : Progress) : Except Fault Progress := do
  let s ← s.skipGap.dropStale
  return s.unwind s.place.column

lemma unwindFrom_frame (column : ℕ) (s : Progress) (is : List ℕ) :
    (unwindFrom column s is).rest = s.rest ∧ (unwindFrom column s is).outer = s.outer := by
  fun_induction unwindFrom column s is with
  | case1 => exact ⟨rfl, rfl⟩
  | case2 s i is hlt ih => exact ih
  | case3 => exact ⟨rfl, rfl⟩

lemma unwind_frame (s : Progress) (column : ℕ) :
    (s.unwind column).rest = s.rest ∧ (s.unwind column).outer = s.outer := by
  unfold unwind
  split
  · exact ⟨rfl, rfl⟩
  · exact unwindFrom_frame column s s.indents

lemma dropStale_of_outer (h : s.outer = []) {x : Option Spot} (hx : refresh s.place s.spot = .ok x) :
    s.dropStale = .ok { s with spot := x } := by
  obtain ⟨text, place, indents, spot, outer, allowed, symbols⟩ := s
  obtain rfl : outer = [] := h
  simp only at hx
  simp [dropStale, hx, bind, Except.bind, pure, Except.pure]

lemma rest_of_dropStale (h : s.dropStale = .ok t) : t.rest = s.rest ∧ t.place = s.place := by
  simp only [dropStale, bind, Except.bind, pure, Except.pure] at h
  split at h
  · simp at h
  · split at h
    · simp at h
    · obtain rfl := Except.ok.inj h
      exact ⟨rfl, rfl⟩

lemma step_of_settle (h : s.settle = .ok t) {c : Char} {cs : List Char} (ht : t.rest = c :: cs) :
    s.step none = t.readSymbol .malformed c cs := by
  simp only [settle, bind, Except.bind, pure, Except.pure] at h
  split at h
  · simp at h
  · next u hu =>
    obtain rfl := Except.ok.inj h
    have hrest : s.skipGap.rest = c :: cs := by
      rw [← (rest_of_dropStale hu).1, ← (unwind_frame u u.place.column).1, ht]
    simp only [step, hrest, hu, bind, Except.bind, Option.getD]
    cases (u.unwind u.place.column).readSymbol .malformed c cs with
    | error f => rfl
    | ok v => cases hv : v.rest <;> simp [hv, pure, Except.pure]

/-- A text stands at a column next, where a key may start, and blocks to its right may be left to be
ended. -/
def Arrives (s : Progress) (rest : List Char) (column : ℕ) (indents : List ℕ)
    (symbols : List Symbol) : Prop :=
  ∃ p : Place, p.column = column ∧
    s.settle = .ok (unwind ⟨rest, p, indents, none, [], true, symbols⟩ column)

lemma unwindFrom_indents (column : ℕ) (s : Progress) (is js : List ℕ) :
    unwindFrom column { s with indents := js } is = unwindFrom column s is := by
  induction is generalizing s with
  | nil => rfl
  | cons i is ih =>
    rw [unwindFrom, unwindFrom]
    split
    · exact ih (s.emit .blockEnd)
    · rfl

lemma unwind_of_lt (h : k < i) :
    unwind ⟨rest, p, i :: indents, none, [], allowed, symbols⟩ k =
      unwind ⟨rest, p, indents, none, [], allowed, .blockEnd :: symbols⟩ k := by
  have hfrom : unwindFrom k ⟨rest, p, i :: indents, none, [], allowed, symbols⟩ (i :: indents) =
      unwindFrom k ⟨rest, p, indents, none, [], allowed, .blockEnd :: symbols⟩ indents := by
    rw [unwindFrom, if_pos h, ← unwindFrom_indents k _ indents indents]
    rfl
  exact hfrom

lemma unwind_of_le (h : i ≤ k) :
    unwind ⟨rest, p, i :: indents, none, [], allowed, symbols⟩ k =
      ⟨rest, p, i :: indents, none, [], allowed, symbols⟩ := by
  have hfrom : unwindFrom k ⟨rest, p, i :: indents, none, [], allowed, symbols⟩ (i :: indents) =
      ⟨rest, p, i :: indents, none, [], allowed, symbols⟩ := by
    rw [unwindFrom, if_neg (Nat.not_lt.mpr h)]
  exact hfrom

lemma Arrives.leave (h : Arrives s rest k (i :: indents) symbols) (hk : k < i) :
    Arrives s rest k indents (.blockEnd :: symbols) := by
  obtain ⟨p, hp, hs⟩ := h
  exact ⟨p, hp, by rw [hs, unwind_of_lt hk]⟩

lemma refresh_of_lt (h : ∀ x ∈ spot, x.required = false ∧ x.place.line < p.line) :
    refresh p spot = .ok none := by
  cases spot with
  | none => rfl
  | some x =>
    obtain ⟨hrequired, hline⟩ := h x rfl
    have hstale : isStale p x = true := by
      simp only [isStale, Bool.or_eq_true, decide_eq_true_eq]
      omega
    simp [refresh, hstale, hrequired]

lemma arrives_of_skipGap (h : s.skipGap = ⟨rest, p, indents, spot, [], true, symbols⟩)
    (hspot : ∀ x ∈ spot, x.required = false ∧ x.place.line < p.line) :
    Arrives s rest p.column indents symbols := by
  refine ⟨p, rfl, ?_⟩
  have hdrop : s.skipGap.dropStale = .ok ⟨rest, p, indents, none, [], true, symbols⟩ := by
    rw [h]
    exact dropStale_of_outer rfl (refresh_of_lt hspot)
  rw [settle, hdrop]
  rfl

lemma arrives_line (hrest : SymbolStart rest)
    (hspot : ∀ x ∈ spot, x.required = false ∧ x.place.line ≤ p.line) :
    Arrives ⟨'\n' :: (spaces k ++ rest), p, indents, spot, [], allowed, symbols⟩ rest k indents
      symbols := by
  have hskip : skipGap ⟨'\n' :: (spaces k ++ rest), p, indents, spot, [], allowed, symbols⟩ =
      ⟨rest, p.after ('\n' :: spaces k), indents, spot, [], true, symbols⟩ := by
    have hgap : gap false ('\n' :: (spaces k ++ rest)) = (('\n' :: spaces k).length, true) := by
      rw [gap_line hrest, List.length_cons, spaces, List.length_replicate]
    rw [@skipGap_eq _ rest ('\n' :: spaces k) true rfl (by simp) hgap]
    simp [inFlow]
  have hline : p.line < (p.after ('\n' :: spaces k)).line :=
    Place.line_lt_after List.mem_cons_self rfl p
  have harrives := arrives_of_skipGap hskip fun x hx =>
    ⟨(hspot x hx).1, (hspot x hx).2.trans_lt hline⟩
  rwa [Place.column_after_line] at harrives

lemma arrives_here (hrest : SymbolStart rest) (hp : p.column = k)
    (hspot : ∀ x ∈ spot, x.required = false ∧ x.place.line < p.line) :
    Arrives ⟨rest, p, indents, spot, [], true, symbols⟩ rest k indents symbols := by
  subst hp
  refine arrives_of_skipGap ?_ hspot
  rw [@skipGap_eq _ rest [] false rfl hrest.byteOrder (gap_start hrest)]
  rfl

lemma arrives_space (hrest : SymbolStart rest) :
    Arrives ⟨' ' :: rest, p, indents, none, [], true, symbols⟩ rest (p.column + 1) indents
      symbols := by
  have hskip : skipGap ⟨' ' :: rest, p, indents, none, [], true, symbols⟩ =
      ⟨rest, p.after (spaces 1), indents, none, [], true, symbols⟩ := by
    rw [@skipGap_eq _ rest [' '] false rfl (by simp) (gap_spaces hrest 1)]
    rfl
  have harrives := arrives_of_skipGap hskip (by simp)
  rwa [Place.column_after_spaces] at harrives

lemma settle_of_skipGap (h : s.skipGap = t) (houter : t.outer = [])
    (hspot : refresh t.place t.spot = .ok t.spot) (hcolumn : ∀ i ∈ t.indents.head?, i ≤ t.place.column) :
    s.settle = .ok t := by
  obtain ⟨rest, p, indents, spot, outer, allowed, symbols⟩ := t
  obtain rfl : outer = [] := houter
  have hdrop : s.skipGap.dropStale = .ok ⟨rest, p, indents, spot, [], allowed, symbols⟩ := by
    rw [h]
    exact dropStale_of_outer rfl hspot
  rw [settle, hdrop]
  cases indents with
  | nil => rfl
  | cons i is =>
    have hle : ¬ p.column < i := Nat.not_lt.mpr (hcolumn i rfl)
    simp [bind, Except.bind, pure, Except.pure, unwind, inFlow, unwindFrom, hle]

lemma settle_space (hrest : SymbolStart rest) (hi : i ≤ p.column) :
    settle ⟨' ' :: rest, p, i :: indents, none, [], allowed, symbols⟩ =
      .ok ⟨rest, p.next ' ', i :: indents, none, [], allowed, symbols⟩ := by
  refine settle_of_skipGap ?_ rfl rfl ?_
  · rw [@skipGap_eq _ rest [' '] false rfl (by simp) (gap_spaces hrest 1)]
    simp [Place.after]
  · have hcolumn : (p.next ' ').column = p.column + 1 := Place.column_after_spaces p 1
    simp [hcolumn]
    omega

structure IsKey (w : List Char) : Prop where
  ne : w ≠ []
  short : w.length ≤ 1000
  chars : ∀ c ∈ w, c.isAlpha = true ∨ c = '_'

instance (w : List Char) : Decidable (IsKey w) :=
  decidable_of_iff (w ≠ [] ∧ w.length ≤ 1000 ∧ ∀ c ∈ w, c.isAlpha = true ∨ c = '_')
    ⟨fun h => ⟨h.1, h.2.1, h.2.2⟩, fun h => ⟨h.ne, h.short, h.chars⟩⟩

section Key

variable {w more : List Char} {n : ℕ}

lemma IsKey.not_mem (hw : IsKey w) {c : Char} (hc : (c.isAlpha || c = '_') = false) : c ∉ w := by
  intro hmem
  have := hw.chars c hmem
  simp_all

lemma IsKey.isBlank (hw : IsKey w) : ∀ c ∈ w, isBlank c = false := by
  intro c hc
  have hne {d : Char} (hd : (d.isAlpha || d = '_') = false) : c ≠ d := by
    rintro rfl
    exact hw.not_mem hd hc
  simp [Scalar.isBlank, isBreak, hne (d := '\x00') rfl, hne (d := ' ') rfl, hne (d := '\t') rfl,
    hne (d := '\r') rfl, hne (d := '\n') rfl, hne (d := '\u0085') rfl, hne (d := '\u2028') rfl,
    hne (d := '\u2029') rfl]

lemma IsKey.isBreak (hw : IsKey w) : ∀ c ∈ w, isBreak c = false := by
  intro c hc
  have := hw.isBlank c hc
  simp_all [Scalar.isBlank]

lemma IsKey.lineStart (hw : IsKey w) (more : List Char) : LineStart (w ++ more) := by
  obtain ⟨c, w, rfl⟩ := List.exists_cons_of_ne_nil hw.ne
  have hne {d : Char} (hd : (d.isAlpha || d = '_') = false) : c ≠ d := by
    rintro rfl
    exact hw.not_mem hd (by simp)
  refine ⟨⟨?_, ?_, ?_, ?_⟩, ?_⟩
  · simpa [Scalar.Past, Scalar.isSpace] using hne (d := ' ') rfl
  · simpa [Scalar.Past] using hw.isBreak c (by simp)
  · simpa using hne (d := '#') rfl
  · simpa using hne (d := '\ufeff') rfl
  · unfold atSeparator
    split
    · next he => exact absurd (List.cons.inj he).1 (hne rfl)
    · next he => exact absurd (List.cons.inj he).1 (hne rfl)
    · rfl

lemma readSymbol_plain {f : Fault} {c : Char} {cs : List Char} (hflow : s.outer = [])
    (hblank : isBlank c = false) (hindicator : c ∉ Scalar.indicators)
    (hmark : c = '?' ∨ c = ':' ∨ c = '-' → blankAhead cs = false)
    (hline : s.place.column = 0 → atSeparator (c :: cs) = false) :
    s.readSymbol f c cs = s.plainScalar := by
  have hnot {d : Char} (hd : d ∈ Scalar.indicators) : c ≠ d := by
    rintro rfl
    exact hindicator hd
  have hseparator : (decide (s.place.column = 0) && atSeparator (c :: cs)) = false := by
    by_cases h : s.place.column = 0 <;> simp [h, hline]
  have hflow : s.inFlow = false := by simp [inFlow, hflow]
  have hplain : startsPlain s.inFlow c cs = true := by
    rw [startsPlain, hblank, hflow]
    by_cases hm : c = '?' ∨ c = ':' ∨ c = '-'
    · rw [hmark hm]
      rcases hm with rfl | rfl | rfl <;> rfl
    · have hmarks : ∀ d ∈ "-?:,[]\x7b\x7d#&*!|>'\"%@`".toList,
          d ∈ Scalar.indicators ∨ d = '?' ∨ d = ':' ∨ d = '-' := by decide
      have hc : "-?:,[]\x7b\x7d#&*!|>'\"%@`".toList.contains c = false := by
        rw [List.contains_eq_mem, decide_eq_false_iff_not]
        exact fun hc => (hmarks c hc).elim hindicator hm
      rw [hc]
      rfl
  have hdash : (c = '-' && blankAhead cs) = false := by
    by_cases h : c = '-' <;> simp [h, hmark]
  have hquestion : (c = '?' && (s.inFlow || blankAhead cs)) = false := by
    by_cases h : c = '?' <;> simp [h, hmark, hflow]
  have hcolon : (c = ':' && (s.inFlow || blankAhead cs)) = false := by
    by_cases h : c = ':' <;> simp [h, hmark, hflow]
  unfold readSymbol
  rw [if_neg (by simp [hnot (d := '%') (by decide)]), hseparator, if_neg (by simp),
    if_neg (hnot (by decide)), if_neg (hnot (by decide)), if_neg (hnot (by decide)),
    if_neg (hnot (by decide)), if_neg (hnot (by decide)), hdash, hquestion, hcolon,
    if_neg (by simp), if_neg (by simp), if_neg (by simp), if_neg (hnot (by decide)),
    if_neg (hnot (by decide)), if_neg (hnot (by decide)),
    if_neg (by simp [hnot (d := '|') (by decide)]), if_neg (by simp [hnot (d := '>') (by decide)]),
    if_neg (hnot (by decide)), if_neg (hnot (by decide)), if_pos hplain]

def spotOf (allowed : Bool) (p : Place) (indents : List ℕ) (symbols : List Symbol) : Option Spot :=
  if allowed then some ⟨symbols.length, indents.head? = some p.column, p⟩ else none

lemma remember_eq :
    remember ⟨rest, p, indents, none, [], allowed, symbols⟩ =
      .ok ⟨rest, p, indents, spotOf allowed p indents symbols, [], allowed, symbols⟩ := by
  cases allowed <;> rfl

lemma plainScalar_eq {front text : List Char} {broken : Bool}
    (hn : least ⟨front ++ rest, p, indents, none, [], allowed, symbols⟩ = n)
    (h : Unquoted.read false n p (front ++ rest) = ⟨text, front.length, broken⟩) :
    plainScalar ⟨front ++ rest, p, indents, none, [], allowed, symbols⟩ =
      .ok ⟨rest, p.after front, indents, spotOf allowed p indents symbols, [], broken,
        .scalar (Point.chars text) true :: symbols⟩ := by
  have hread : Unquoted.read (inFlow ⟨front ++ rest, p, indents,
      spotOf allowed p indents symbols, [], allowed, symbols⟩)
      (least ⟨front ++ rest, p, indents, spotOf allowed p indents symbols, [], allowed, symbols⟩) p
      (front ++ rest) = ⟨text, front.length, broken⟩ := by
    rw [← h, ← hn]
    rfl
  simp only [plainScalar, remember_eq, bind, Except.bind, hread, pure, Except.pure]
  simp [forward, emit]

lemma length_rest_of_settle (h : s.settle = .ok t) : t.rest.length ≤ s.rest.length := by
  simp only [settle, bind, Except.bind, pure, Except.pure] at h
  split at h
  · simp at h
  · next u hu =>
    obtain rfl := Except.ok.inj h
    rw [(unwind_frame u _).1, (rest_of_dropStale hu).1]
    simp [skipGap, forward]

lemma readSymbol_colon {f : Fault} {cs : List Char} (hcs : blankAhead cs = true) :
    s.readSymbol f ':' cs = s.colon := by
  have hseparator : atSeparator (':' :: cs) = false := rfl
  simp [readSymbol, hseparator, hcs]

/-- A mapping's block is open at a column, or it can be opened there. -/
def Mapping (k : ℕ) (is : List ℕ) (opened : List Symbol) (indents : List ℕ)
    (symbols : List Symbol) : Prop :=
  (indents = k :: is ∧ opened = symbols) ∨
    (indents = is ∧ (∀ i ∈ is.head?, i < k) ∧ opened = .mappingStart :: symbols)

lemma Mapping.head_le {is : List ℕ} {opened : List Symbol}
    (h : Mapping k is opened indents symbols) : ∀ i ∈ indents.head?, i ≤ k := by
  rcases h with ⟨rfl, -⟩ | ⟨rfl, his, -⟩
  · simp
  · exact fun i hi => (his i hi).le

lemma colon_eq {is : List ℕ} {opened : List Symbol} {x : Symbol} {required : Bool} {q : Place}
    (h : Mapping q.column is opened indents symbols) :
    colon ⟨':' :: more, p, indents, some ⟨symbols.length, required, q⟩, [], false, x :: symbols⟩ =
      .ok ⟨more, p.next ':', q.column :: is, none, [], false, .value :: x :: .key :: opened⟩ := by
  rcases h with ⟨rfl, rfl⟩ | ⟨rfl, his, rfl⟩
  · simp [colon, inFlow, least, insertAt, forward, emit, Place.after]
  · have hleast : least ⟨':' :: more, p, indents, none, [], false, x :: symbols⟩ ≤ q.column := by
      cases indents with
      | nil => exact Nat.zero_le _
      | cons i is => exact his i rfl
    simp [colon, inFlow, hleast, insertAt, forward, emit, Place.after]

lemma Arrives.settle_eq (h : Arrives s rest k indents symbols) (hi : ∀ i ∈ indents.head?, i ≤ k) :
    ∃ p : Place, p.column = k ∧
      s.settle = .ok ⟨rest, p, indents, none, [], true, symbols⟩ := by
  obtain ⟨p, hp, hs⟩ := h
  refine ⟨p, hp, ?_⟩
  rw [hs]
  cases indents with
  | nil => rfl
  | cons i is => rw [unwind_of_le (hi i rfl)]

lemma Arrives.steps_key {is : List ℕ} {opened : List Symbol}
    (h : Arrives s (w ++ ':' :: more) k indents symbols) (hw : IsKey w)
    (hmore : blankAhead more = true) (hmapping : Mapping k is opened indents symbols) :
    ∃ q : Place, k < q.column ∧ Steps s ⟨more, q, k :: is, none, [], false,
      .value :: .scalar (Point.chars w) true :: .key :: opened⟩ := by
  obtain ⟨p, rfl, hs⟩ := h.settle_eq hmapping.head_le
  have hline := hw.lineStart (':' :: more)
  obtain ⟨c, v, hv⟩ := List.exists_cons_of_ne_nil hw.ne
  have hkey : s.step none = .ok ⟨':' :: more, p.after w, indents, spotOf true p indents symbols, [],
      false, .scalar (Point.chars w) true :: symbols⟩ := by
    have hc : c ∈ w := by simp [hv]
    have hindicator : c ∉ Scalar.indicators := by
      have hall : ∀ d ∈ Scalar.indicators, (d.isAlpha || d = '_') = false := by decide
      exact fun hd => hw.not_mem (hall c hd) hc
    have hmark : ¬ (c = '?' ∨ c = ':' ∨ c = '-') := by
      rintro (rfl | rfl | rfl) <;> exact hw.not_mem rfl hc
    have hcolon : ∀ d ∈ w, isBlank d = false ∧ d ≠ ':' := fun d hd =>
      ⟨hw.isBlank d hd, fun he => hw.not_mem rfl (he ▸ hd)⟩
    have hfront : w ++ ':' :: more = c :: (v ++ ':' :: more) := by rw [hv]; rfl
    rw [step_of_settle hs hfront, readSymbol_plain rfl (hw.isBlank c hc) hindicator
      (fun hm => absurd hm hmark) (fun _ => hfront ▸ hline.separator),
      plainScalar_eq rfl (Unquoted.read_key hcolon hmore p)]
  have hplace : (p.after w).line = p.line ∧ (p.after w).offset = p.offset + w.length ∧
      p.column ≤ (p.after w).column :=
    ⟨Place.line_after hw.isBreak p, Place.offset_after p w, Place.column_le_after hw.isBreak p⟩
  have hcolon : step ⟨':' :: more, p.after w, indents, spotOf true p indents symbols, [], false,
      .scalar (Point.chars w) true :: symbols⟩ none = .ok ⟨more, (p.after w).next ':',
        p.column :: is, none, [], false,
        .value :: .scalar (Point.chars w) true :: .key :: opened⟩ := by
    have hfresh : refresh (p.after w) (spotOf true p indents symbols) =
        .ok (spotOf true p indents symbols) := by
      have hstale : isStale (p.after w) ⟨symbols.length, indents.head? = some p.column, p⟩ = false := by
        have := hw.short
        simp [isStale, hplace]
        omega
      simp [spotOf, refresh, hstale]
    have hstart : SymbolStart (':' :: more) := by
      constructor <;> simp [Scalar.Past, Scalar.isSpace, Scalar.isBreak]
    have hsettle : settle ⟨':' :: more, p.after w, indents, spotOf true p indents symbols, [], false,
        .scalar (Point.chars w) true :: symbols⟩ = .ok ⟨':' :: more, p.after w, indents,
          spotOf true p indents symbols, [], false, .scalar (Point.chars w) true :: symbols⟩ := by
      refine settle_of_skipGap ?_ rfl hfresh fun i hi => (hmapping.head_le i hi).trans hplace.2.2
      rw [@skipGap_eq _ (':' :: more) [] false rfl hstart.byteOrder (gap_start hstart)]
      rfl
    rw [step_of_settle hsettle rfl, readSymbol_colon hmore]
    exact colon_eq hmapping
  have hlength := length_rest_of_settle hs
  refine ⟨(p.after w).next ':', ?_, (Steps.single hkey ?_).trans (Steps.single hcolon ?_)⟩
  · have hnext : ((p.after w).next ':').column = (p.after w).column + 1 := rfl
    omega
  · have := List.length_pos_iff.mpr hw.ne
    simp only [List.length_append, List.length_cons] at hlength ⊢
    omega
  · simp

end Key

lemma atSeparator_dash {cs : List Char} (hcs : blankAhead cs = true) :
    atSeparator ('-' :: cs) = false := by
  unfold atSeparator
  split
  · next he =>
    obtain rfl := (List.cons.inj he).2
    simp [blankAhead, isBlank, isBreak] at hcs
  · next he => simp at he
  · rfl

lemma readSymbol_dash {f : Fault} {cs : List Char} (hcs : blankAhead cs = true) :
    s.readSymbol f '-' cs = s.blockMark .sequenceStart .entry true := by
  simp [readSymbol, atSeparator_dash hcs, hcs]

lemma symbolStart_dash (cs : List Char) : SymbolStart ('-' :: cs) := by
  constructor <;> simp [Scalar.Past, Scalar.isSpace, Scalar.isBreak]

lemma Arrives.steps_dash {more : List Char} (h : Arrives s ('-' :: more) i (i :: indents) symbols)
    (hmore : blankAhead more = true) :
    ∃ q : Place, q.column = i + 1 ∧
      Steps s ⟨more, q, i :: indents, none, [], true, .entry :: symbols⟩ := by
  obtain ⟨p, rfl, hs⟩ := h.settle_eq (by simp)
  have hstep : s.step none =
      .ok ⟨more, p.next '-', p.column :: indents, none, [], true, .entry :: symbols⟩ := by
    rw [step_of_settle hs rfl, readSymbol_dash hmore]
    simp [blockMark, openBlock, least, inFlow, forget, forward, emit, bind, Except.bind, pure,
      Except.pure, Place.after]
  have hlength := length_rest_of_settle hs
  refine ⟨p.next '-', rfl, Steps.single hstep ?_⟩
  simp only [List.length_cons] at hlength
  exact hlength

section End

lemma unwindAll_unwindFrom (column : ℕ) (s : Progress) (h : s.outer = []) (is : List ℕ) :
    (unwindFrom column s is).unwindAll =
      { s with indents := [], symbols := is.map (fun _ => .blockEnd) ++ s.symbols } := by
  fun_induction unwindFrom column s is with
  | case1 s => simp [unwindAll, inFlow, h]
  | case2 s i is hlt ih =>
    have hcommute : is.map (fun _ => Symbol.blockEnd) ++ .blockEnd :: s.symbols =
        .blockEnd :: (is.map (fun _ => .blockEnd) ++ s.symbols) := by
      rw [List.append_cons, List.map_const', ← List.replicate_succ', List.replicate_succ,
        List.cons_append]
    rw [ih h]
    simp only [emit, List.map_cons, List.cons_append, hcommute]
  | case3 s i is hle => simp [unwindAll, inFlow, h]

lemma unwindAll_unwind (h : s.outer = []) (column : ℕ) :
    (s.unwind column).unwindAll = s.unwindAll := by
  have hflow : s.inFlow = false := by simp [inFlow, h]
  rw [unwind, hflow, if_neg (by simp), unwindAll_unwindFrom column s h, unwindAll, hflow,
    if_neg (by simp)]

lemma step_finished :
    step ⟨[], p, [], none, [], true, symbols⟩ none =
      .ok ⟨[], p, [], none, [], true, symbols⟩ := by
  have hskip : skipGap ⟨[], p, [], none, [], true, symbols⟩ =
      ⟨[], p, [], none, [], true, symbols⟩ := by
    rw [@skipGap_eq _ [] [] false rfl (by simp) rfl]
    rfl
  simp only [step, hskip]
  rfl

lemma Arrives.run_eq (h : Arrives s [] k indents symbols) :
    s.run none = ⟨symbols.reverse ++ indents.map (fun _ => .blockEnd), none⟩ := by
  obtain ⟨p, -, hs⟩ := h
  let t : Progress := ⟨[], p, [], none, [], true, indents.map (fun _ => .blockEnd) ++ symbols⟩
  have hstep : s.step none = .ok t := by
    simp only [settle, bind, Except.bind, pure, Except.pure] at hs
    split at hs
    · simp at hs
    · next u hu =>
      have hunwind := Except.ok.inj hs
      have hrest : s.skipGap.rest = [] := by
        rw [← (rest_of_dropStale hu).1, ← (unwind_frame u u.place.column).1, hunwind,
          (unwind_frame _ _).1]
      have houter : u.outer = [] := by
        rw [← (unwind_frame u u.place.column).2, hunwind, (unwind_frame _ _).2]
      have hfinish : u.finish = .ok t := by
        rw [finish, ← unwindAll_unwind houter, hunwind, unwindAll_unwind rfl]
        rfl
      simp only [step, hrest, hu, bind, Except.bind, hfinish]
  have hend : t.run none = ⟨t.symbols.reverse, none⟩ := by
    rw [run.eq_def]
    simp only [t, step_finished]
    simp
  rw [run.eq_def]
  simp only [hstep]
  split
  · rw [hend]
    simp [t]
  · simp [t]

end End

end ScenarioScript.Yaml.Progress
