import ScenarioScript.Proofs.Yaml.Symbols
import ScenarioScript.Proofs.Yaml.Unmarked

namespace ScenarioScript.Yaml

open Scalar (isBreak isBlank isSolid spaces runs plainChars Unmarked blankAhead)

def OnlyFeeds (s : String) : Prop :=
  ∀ c ∈ s.toList, isBreak c = true → c = '\n'

namespace Progress

variable {rest cs inside : List Char} {p : Place} {is : List ℕ} {symbols : List Symbol}
  {i k indent column : ℕ} {allowed : Bool}

lemma column_next_space (p : Place) : (p.next ' ').column = p.column + 1 :=
  Place.column_after_spaces p 1

lemma spotOf_inside (hp : i < p.column) {n : ℕ} (hn : p.line ≤ n) :
    ∀ x ∈ spotOf allowed p (i :: is) symbols, x.required = false ∧ x.place.line ≤ n := by
  intro x hx
  cases allowed with
  | false => simp [spotOf] at hx
  | true =>
    obtain rfl : _ = x := Option.some.inj hx
    simpa [Nat.ne_of_lt hp] using hn

lemma steps_plain (hcs : Unmarked cs) (hne : cs ≠ []) (hrest : LineStart rest)
    (hp : i < p.column) (hk : k ≤ i) (hindent : i < indent) :
    ∃ t, Steps ⟨' ' :: (plainChars indent column (runs cs) ++ '\n' :: (spaces k ++ rest)), p,
        i :: is, none, [], allowed, symbols⟩ t ∧
      Arrives t rest k (i :: is) (.scalar (Point.chars cs) true :: symbols) := by
  have hcolumn := column_next_space p
  have hinside : i < (p.next ' ').column := by omega
  let front := plainChars indent column (runs cs) ++ '\n' :: spaces k
  have hfront : plainChars indent column (runs cs) ++ '\n' :: (spaces k ++ rest) = front ++ rest := by
    simp [front]
  have hread : Unquoted.read false (i + 1) (p.next ' ') (front ++ rest) =
      ⟨cs, front.length, true⟩ := by
    rw [← hfront, Unquoted.read_plainChars hindent (Nat.lt_succ_of_le hk) hrest hne hcs column
      (by omega)]
    simp [front, spaces, Nat.add_comm 1]
  have hplace : ((p.next ' ').after front).column = k ∧
      (p.next ' ').line < ((p.next ' ').after front).line := by
    refine ⟨?_, Place.line_lt_after (List.mem_append_right _ List.mem_cons_self) rfl _⟩
    rw [Place.after_append, Place.column_after_line]
  have hstep : step ⟨' ' :: (front ++ rest), p, i :: is, none, [], allowed, symbols⟩ none =
      .ok ⟨rest, (p.next ' ').after front, i :: is, spotOf allowed (p.next ' ') (i :: is) symbols,
        [], true, .scalar (Point.chars cs) true :: symbols⟩ := by
    obtain ⟨c, cs, rfl⟩ := List.exists_cons_of_ne_nil hne
    obtain ⟨out, hout, hahead⟩ := Unquoted.exists_plainChars_cons hcs indent column
    have hcons : front ++ rest = c :: (out ++ '\n' :: (spaces k ++ rest)) := by
      rw [← hfront, hout]
      rfl
    have hstart : SymbolStart (front ++ rest) := hcons ▸ hcs.symbolStart _
    rw [step_of_settle (settle_space hstart hp.le) hcons, readSymbol_plain rfl hcs.isBlank
      hcs.not_mem_indicators (fun hm => (hahead _ rfl).trans (hcs.blankAhead hm))
      (by simp [hcolumn]),
      plainScalar_eq (n := i + 1) rfl hread]
  rw [hfront]
  refine ⟨_, Steps.single hstep (by simp only [List.length_cons, List.length_append]; omega), ?_⟩
  exact arrives_here hrest.toSymbolStart hplace.1 fun x hx =>
    (spotOf_inside hinside (Nat.le_refl _) x hx).imp_right fun h => h.trans_lt hplace.2

lemma steps_word {w : List Char} (hw : Unmarked w) (hne : w ≠ []) (hspace : ' ' ∉ w)
    (hrest : LineStart rest) (hp : i < p.column) (hk : k ≤ i) :
    ∃ t, Steps ⟨' ' :: (w ++ '\n' :: (spaces k ++ rest)), p, i :: is, none, [], allowed, symbols⟩ t ∧
      Arrives t rest k (i :: is) (.scalar (Point.chars w) true :: symbols) := by
  have hsolid : ∀ c ∈ w, isSolid c = true := fun c hc =>
    Scalar.isSolid_iff.mpr ⟨fun he => hspace (he ▸ hc), hw.unbroken c hc⟩
  have hchars : plainChars (i + 1) 0 (runs w) = w := by
    have hruns : runs w = [.word w] := by
      simpa [runs] using @Scalar.runs_word w [] hne hsolid (by simp [Scalar.Past])
    simp [hruns, plainChars]
  have h := @steps_plain rest w p is symbols i k (i + 1) 0 allowed hw hne hrest hp hk (by omega)
  rwa [hchars] at h

def quote (double : Bool) : Char :=
  if double then '"' else '\''

lemma readSymbol_quote {s : Progress} {f : Fault} {double : Bool} :
    s.readSymbol f (quote double) cs = s.quotedScalar f double := by
  cases double <;> simp [readSymbol, quote, atSeparator]

lemma upTo_eq {s : Progress} {front : List Char} (h : s.rest = front ++ rest) :
    s.upTo rest = { s with rest := rest, place := s.place.after front } := by
  have hlength : s.rest.length - rest.length = front.length := by simp [h]
  rw [upTo, forward, hlength, h, List.drop_left, List.take_left]

lemma steps_quoted {double : Bool} {text : List Point}
    (hread : Enclosed.readFrom double .malformed .text (inside ++ '\n' :: (spaces k ++ rest)) =
      .ok (text, '\n' :: (spaces k ++ rest)))
    (hrest : LineStart rest) (hp : i < p.column) :
    ∃ t, Steps ⟨' ' :: quote double :: (inside ++ '\n' :: (spaces k ++ rest)), p, i :: is, none, [],
        allowed, symbols⟩ t ∧
      Arrives t rest k (i :: is) (.scalar text false :: symbols) := by
  have hcolumn := column_next_space p
  have hinside : i < (p.next ' ').column := by omega
  have hstart : SymbolStart (quote double :: (inside ++ '\n' :: (spaces k ++ rest))) := by
    cases double <;> constructor <;>
      simp [quote, Scalar.Past, Scalar.isSpace, Scalar.isBreak]
  have hstep : step ⟨' ' :: quote double :: (inside ++ '\n' :: (spaces k ++ rest)), p, i :: is,
      none, [], allowed, symbols⟩ none = .ok ⟨'\n' :: (spaces k ++ rest),
        (p.next ' ').after (quote double :: inside), i :: is,
        spotOf allowed (p.next ' ') (i :: is) symbols, [], false,
        .scalar text false :: symbols⟩ := by
    rw [step_of_settle (settle_space hstart hp.le) rfl, readSymbol_quote]
    simp only [quotedScalar, List.drop_succ_cons, List.drop_zero, hread, bind, Except.bind, leaf,
      remember_eq, pure, Except.pure]
    rw [@upTo_eq ('\n' :: (spaces k ++ rest)) _ (quote double :: inside) rfl]
    rfl
  refine ⟨_, Steps.single hstep (by simp only [List.length_cons, List.length_append]; omega), ?_⟩
  exact arrives_line hrest.toSymbolStart (spotOf_inside hinside (Place.line_le_after _ _))

lemma steps_text {s : String} (hfeed : OnlyFeeds s)
    (hrest : LineStart rest) (hp : i < p.column) (hk : k ≤ i) (hindent : i < indent)
    (hwidth : indent < Scalar.width) :
    ∃ t, Steps ⟨' ' :: (Scalar.chars indent column (Point.ofText s) ++ '\n' :: (spaces k ++ rest)),
        p, i :: is, none, [], allowed, symbols⟩ t ∧
      Arrives t rest k (i :: is)
        (.scalar (Point.ofText s) (Scalar.style s.toList = .plain) :: symbols) := by
  have hpos : 0 < indent := by omega
  rw [Scalar.chars, Point.ofText, Scalar.pointStyle_chars, Point.shapes_chars]
  cases hstyle : Scalar.style s.toList with
  | plain =>
    have h := @steps_plain rest s.toList p is symbols i k indent column allowed
      (Scalar.unmarked_of_style hstyle) (Scalar.ne_nil_of_style hstyle) hrest hp hk hindent
    simpa using h
  | single =>
    obtain ⟨hordinary, hsb, hbs⟩ := Scalar.needsEscapes_of_style (hstyle.trans_ne (by decide))
    have htab : '\t' ∉ s.toList := fun ht => absurd (hordinary _ ht) (by decide)
    have hinside : Enclosed.readFrom false .malformed .text
        (Scalar.singleChars indent (column + 1) true (runs s.toList) ++
          '\'' :: '\n' :: (spaces k ++ rest)) = .ok (Point.chars s.toList, '\n' :: (spaces k ++ rest)) :=
      Enclosed.readFrom_singleChars hpos (by simp) htab hfeed hsb hbs (column + 1) true
    have h := @steps_quoted rest (Scalar.singleChars indent (column + 1) true (runs s.toList) ++ ['\''])
      p is symbols i k allowed false (Point.chars s.toList) (by simpa using hinside) hrest hp
    simpa [quote] using h
  | double =>
    have hinside : Enclosed.readFrom true .malformed .text
        (Scalar.doubleChars indent (column + 1) true false (Point.chars s.toList) ++
          '"' :: '\n' :: (spaces k ++ rest)) = .ok (Point.chars s.toList, '\n' :: (spaces k ++ rest)) :=
      Enclosed.readFrom_doubleChars hpos hwidth
    have h := @steps_quoted rest
      (Scalar.doubleChars indent (column + 1) true false (Point.chars s.toList) ++ ['"'])
      p is symbols i k allowed true (Point.chars s.toList) (by simpa using hinside) hrest hp
    simpa [quote] using h

lemma steps_empty (hrest : LineStart rest) (hp : i < p.column) :
    ∃ t, Steps ⟨' ' :: '[' :: ']' :: '\n' :: (spaces k ++ rest), p, i :: is, none, [], false,
        symbols⟩ t ∧
      Arrives t rest k (i :: is) (.listClose :: .listOpen :: symbols) := by
  have hcolumn := column_next_space p
  have hstart (c : Char) (hc : c = '[' ∨ c = ']') (cs : List Char) : SymbolStart (c :: cs) := by
    rcases hc with rfl | rfl <;> constructor <;>
      simp [Scalar.Past, Scalar.isSpace, Scalar.isBreak]
  have hopen : step ⟨' ' :: '[' :: ']' :: '\n' :: (spaces k ++ rest), p, i :: is, none, [], false,
      symbols⟩ none = .ok ⟨']' :: '\n' :: (spaces k ++ rest), (p.next ' ').next '[', i :: is, none,
        [none], true, .listOpen :: symbols⟩ := by
    rw [step_of_settle (settle_space (hstart '[' (.inl rfl) _) hp.le) rfl]
    rfl
  have hclose : step ⟨']' :: '\n' :: (spaces k ++ rest), (p.next ' ').next '[', i :: is, none,
      [none], true, .listOpen :: symbols⟩ none = .ok ⟨'\n' :: (spaces k ++ rest),
        ((p.next ' ').next '[').next ']', i :: is, none, [], false,
        .listClose :: .listOpen :: symbols⟩ := by
    have hsettle : settle ⟨']' :: '\n' :: (spaces k ++ rest), (p.next ' ').next '[', i :: is, none,
        [none], true, .listOpen :: symbols⟩ = .ok ⟨']' :: '\n' :: (spaces k ++ rest),
          (p.next ' ').next '[', i :: is, none, [none], true, .listOpen :: symbols⟩ := by
      rw [settle, @skipGap_eq _ (']' :: '\n' :: (spaces k ++ rest)) [] false rfl (by simp)
        (gap_start (hstart ']' (.inr rfl) _))]
      rfl
    rw [step_of_settle hsettle rfl]
    rfl
  refine ⟨_, (Steps.single hopen (by simp)).trans (Steps.single hclose (by simp)), ?_⟩
  exact arrives_line hrest.toSymbolStart (by simp)

end Progress

end ScenarioScript.Yaml
