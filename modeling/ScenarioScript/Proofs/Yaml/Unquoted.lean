import ScenarioScript.Proofs.Yaml.Place
import ScenarioScript.Yaml.Unquoted

namespace ScenarioScript.Yaml

open Scalar (isBreak isBlank isSolid isSpace isOrdinary spaces continued runs Past hasIndicator
  blankAhead plainChars)

/-- Texts that plain scalars are made of, whatever they stand for. -/
structure Scalar.Unmarked (cs : List Char) : Prop where
  ordinary : ∀ c ∈ cs, isOrdinary c = true
  unbroken : ∀ c ∈ cs, isBreak c = false
  head : Past isSpace cs
  last : cs.getLast? ≠ some ' '
  starts : startsWithIndicator cs = false
  indicator : hasIndicator cs = false

namespace Unquoted

variable {w rest tail : List Char} {n : ℕ}

lemma isBlank_of_isSolid {c : Char} (hs : isSolid c = true) (ho : isOrdinary c = true) :
    isBlank c = false := by
  obtain ⟨hspace, hbreak⟩ := Scalar.isSolid_iff.mp hs
  have hnot {d : Char} (hd : isOrdinary d = false) : c ≠ d := by
    rintro rfl
    simp [hd] at ho
  simp [isBlank, hspace, hbreak, hnot (d := '\x00') rfl, hnot (d := '\t') rfl,
    hnot (d := '\r') rfl]

lemma hasIndicator_of_append (h : hasIndicator (w ++ rest) = false) : hasIndicator rest = false := by
  induction w with
  | nil => exact h
  | cons c w ih =>
    apply ih
    rw [List.cons_append] at h
    generalize w ++ rest = cs at h
    unfold hasIndicator at h
    split at h
    · simp at *
    · next he =>
      obtain ⟨rfl, rfl⟩ := List.cons.inj he
      exact (Bool.or_eq_false_iff.mp h).2
    · next he =>
      obtain ⟨rfl, rfl⟩ := List.cons.inj he
      exact (Bool.or_eq_false_iff.mp h).2
    · next he =>
      obtain ⟨rfl, rfl⟩ := List.cons.inj he
      exact h

lemma word_append (hw : ∀ c ∈ w, isBlank c = false) (hi : hasIndicator (w ++ rest) = false)
    (hrest : blankAhead rest = true) (htail : blankAhead tail = true) :
    word false (w ++ tail) = w := by
  induction w with
  | nil =>
    cases tail with
    | nil => rfl
    | cons c tail =>
      have hc : isBlank c = true := htail
      simp [word, hc]
  | cons c w ih =>
    have hcolon : (c = ':' && blankAhead (w ++ tail)) = false := by
      by_cases hc : c = ':'
      · subst hc
        rw [List.cons_append, hasIndicator, Bool.or_eq_false_iff] at hi
        cases w with
        | nil => simp [hrest] at hi
        | cons d w => simpa [blankAhead] using hw d (by simp)
      · simp [hc]
    have ih := ih (fun d hd => hw d (by simp [hd])) (hasIndicator_of_append (w := [c]) hi)
    rw [List.cons_append, word, if_neg (by simp [hw c (by simp)])]
    simp only [Bool.false_and, Bool.or_false, hcolon, Bool.false_eq_true, if_false, ih]

lemma takeWhile_spaces (n : ℕ) {cs : List Char} (h : Past isSpace cs) :
    (spaces n ++ cs).takeWhile (· = ' ') = spaces n ∧ (spaces n ++ cs).dropWhile (· = ' ') = cs := by
  have hn : ∀ c ∈ spaces n, decide (c = ' ') = true := by
    intro c hc
    simpa using List.eq_of_mem_replicate hc
  rw [List.takeWhile_append_of_pos hn, List.dropWhile_append_of_pos hn]
  cases cs with
  | nil => simp
  | cons c cs =>
    have hc : c ≠ ' ' := by simpa [isSpace] using h c rfl
    simp [hc]

lemma breaksFrom_spaces (first : Char) (further : List Char) (length : ℕ) {cs : List Char}
    (hs : Past isSpace cs) (hb : Past isBreak cs) :
    breaksFrom first further length (spaces n ++ cs) =
      ⟨length + n, foldBreaks first further, true⟩ := by
  induction n generalizing length with
  | zero =>
    rw [spaces, List.replicate_zero, List.nil_append]
    cases cs with
    | nil => rfl
    | cons c cs =>
      have hc : c ≠ ' ' := by simpa [isSpace] using hs c rfl
      simp [breaksFrom, hc, hb c rfl]
  | succ n ih =>
    have hstep : breaksFrom first further length (spaces (n + 1) ++ cs) =
        breaksFrom first further (length + 1) (spaces n ++ cs) := by
      rw [spaces, List.replicate_succ, List.cons_append, breaksFrom, if_pos rfl]
      rfl
    rw [hstep, ih]
    congr 1
    omega

lemma gap_line {cs : List Char} (hs : Past isSpace cs) (hb : Past isBreak cs)
    (hseparator : atSeparator (spaces n ++ cs) = false) :
    gap ('\n' :: (spaces n ++ cs)) = ⟨1 + n, [' '], true⟩ := by
  have hgap : gap ('\n' :: (spaces n ++ cs)) = breaksFrom '\n' [] 1 (spaces n ++ cs) := by
    simp [gap, isBreak, hseparator, breakChar]
  rw [hgap, breaksFrom_spaces _ _ _ hs hb]
  rfl

lemma gap_spaces {cs : List Char} (hs : Past isSpace cs) (hb : Past isBreak cs) :
    gap (spaces n ++ cs) = ⟨n, spaces n, false⟩ := by
  obtain ⟨ht, hd⟩ := takeWhile_spaces n hs
  unfold gap
  rw [hd, ht]
  cases cs with
  | nil => simp [spaces]
  | cons c cs => simp [hb c rfl, spaces]

lemma further_stop {least : ℕ} {p : Place} {g : Gap} {cs : List Char} (hg : gap cs = g)
    (h : cs.drop g.length = [] ∨ (p.after (cs.take g.length)).column < least) :
    further false least p cs = ⟨[], g.length, g.broken⟩ := by
  subst hg
  unfold further
  split
  · rfl
  · next c w hw =>
    rcases h with h | h
    · simp [h, word] at hw
    · simp [h]

lemma further_go {least : ℕ} {p : Place} {g : Gap} {w front tail : List Char}
    (hg : gap (front ++ (w ++ tail)) = g) (hlength : g.length = front.length)
    (htext : g.text ≠ []) (hw : word false (w ++ tail) = w) (hne : w ≠ [])
    (hcomment : w.head? ≠ some '#') (hcolumn : least ≤ (p.after front).column) {r : Reading}
    (hr : further false least (p.after (front ++ w)) tail = r) :
    further false least p (front ++ (w ++ tail)) =
      ⟨g.text ++ w ++ r.text, (front ++ w).length + r.length, r.broken⟩ := by
  subst hr
  have hdrop : (front ++ (w ++ tail)).drop g.length = w ++ tail := by
    rw [hlength, List.drop_left]
  have htake : (front ++ (w ++ tail)).take g.length = front := by
    rw [hlength, List.take_left]
  obtain ⟨c, w, rfl⟩ := List.exists_cons_of_ne_nil hne
  have hcomment : c ≠ '#' := by simpa using hcomment
  rw [further, hg]
  split
  · next h =>
    rw [hdrop, hw] at h
    simp at h
  · next d u h =>
    rw [hdrop, hw] at h
    obtain ⟨rfl, rfl⟩ := List.cons.inj h
    have hrest : (c :: w ++ tail).drop (w.length + 1) = tail := by
      rw [← List.length_cons (a := c), List.drop_left]
    rw [hdrop, htake, hrest, ← Place.after_append, if_neg]
    · simp [hlength, Nat.add_assoc]
    · simp [htext, hcomment, Nat.not_lt.mpr hcolumn]

structure Further (cs : List Char) : Prop where
  ordinary : ∀ c ∈ cs, isOrdinary c = true
  unbroken : ∀ c ∈ cs, isBreak c = false
  head : Past isSolid cs
  last : cs.getLast? ≠ some ' '
  indicator : hasIndicator cs = false

section Further

variable {indent column : ℕ} {cs more : List Char}

lemma Further.of_append (h : ∀ c ∈ w ++ cs, isOrdinary c = true)
    (hb : ∀ c ∈ w ++ cs, isBreak c = false) (hl : (w ++ cs).getLast? ≠ some ' ')
    (hi : hasIndicator (w ++ cs) = false) (hcs : Past isSolid cs) : Further cs where
  ordinary c hc := h c (List.mem_append_right w hc)
  unbroken c hc := hb c (List.mem_append_right w hc)
  head := hcs
  last he := hl (by rw [List.getLast?_append, he]; rfl)
  indicator := hasIndicator_of_append hi

lemma Further.eq_nil_or (h : Further cs) :
    cs = [] ∨ ∃ n w rest, cs = spaces (n + 1) ++ (w ++ rest) ∧ w ≠ [] ∧
      (∀ c ∈ w, isSolid c = true) ∧ w.head? ≠ some '#' ∧ Further rest := by
  cases cs with
  | nil => exact .inl rfl
  | cons c cs =>
    right
    have hc : isSpace c = true := by
      have hsolid := h.head c rfl
      have hbreak := h.unbroken c (by simp)
      simpa [isSolid, isSpace, hbreak] using hsolid
    obtain ⟨u, cs, he, hne, hu, hcs, -⟩ := Scalar.exists_front hc cs
    obtain ⟨n, hn⟩ : ∃ n, u.length = n + 1 :=
      Nat.exists_eq_add_one.mpr (List.length_pos_iff.mpr hne)
    rw [Scalar.eq_spaces hu, hn] at he
    rw [he] at h ⊢
    obtain ⟨d, cs, rfl⟩ : ∃ d ds, cs = d :: ds := by
      cases cs with
      | nil => exact absurd (by simp [spaces, List.replicate_succ']) h.last
      | cons d ds => exact ⟨d, ds, rfl⟩
    have hd : isSolid d = true := by
      have hspace := hcs d rfl
      have hbreak := h.unbroken d (by simp)
      simpa [isSolid, isSpace, hbreak] using hspace
    have hcomment : d ≠ '#' := by
      rintro rfl
      have hi := h.indicator
      rw [spaces, List.replicate_succ', List.append_assoc] at hi
      simpa [hasIndicator, isBlank] using hasIndicator_of_append hi
    obtain ⟨w, rest, he, hne, hw, hrest, -⟩ := Scalar.exists_front hd cs
    rw [he] at h ⊢
    refine ⟨n, w, rest, rfl, hne, hw, ?_, ?_⟩
    · cases w with
      | nil => exact absurd rfl hne
      | cons e w =>
        obtain ⟨rfl, -⟩ := List.cons.inj he
        simpa using hcomment
    · rw [← List.append_assoc] at h
      exact .of_append h.ordinary h.unbroken h.last h.indicator hrest

lemma Further.blankAhead (h : Further cs) : blankAhead cs = true := by
  rcases h.eq_nil_or with rfl | ⟨n, w, rest, rfl, -⟩ <;> rfl

lemma plainChars_word {n : ℕ} (hne : w ≠ []) (hw : ∀ c ∈ w, isSolid c = true)
    (hcs : Past isSolid cs) (indent column : ℕ) :
    ∃ column', (plainChars indent column (runs (spaces (n + 1) ++ (w ++ cs))) =
        spaces (n + 1) ++ (w ++ plainChars indent column' (runs cs))) ∨
      (n = 0 ∧ plainChars indent column (runs (spaces (n + 1) ++ (w ++ cs))) =
        continued indent ++ (w ++ plainChars indent column' (runs cs))) := by
  have hpast : Past isSpace (w ++ cs) := by
    intro c hc
    cases w with
    | nil => exact absurd rfl hne
    | cons d w =>
      obtain rfl : d = c := by simpa using hc
      simpa [isSpace] using (Scalar.isSolid_iff.mp (hw d (by simp))).1
  rw [Scalar.runs_spaces (Nat.succ_pos n) hpast, Scalar.runs_word hne hw hcs, plainChars]
  split
  · next h =>
    refine ⟨_, .inr ⟨?_, rfl⟩⟩
    simp only [Bool.and_eq_true, decide_eq_true_eq] at h
    omega
  · exact ⟨_, .inl rfl⟩

lemma blankAhead_plainChars (h : Further cs) (hmore : Scalar.blankAhead more = true) (column : ℕ) :
    Scalar.blankAhead (plainChars indent column (runs cs) ++ more) = true := by
  rcases h.eq_nil_or with rfl | ⟨n, w, rest, rfl, hne, hw, -, hrest⟩
  · exact hmore
  · obtain ⟨_, he | ⟨-, he⟩⟩ := plainChars_word (n := n) hne hw hrest.head indent column
    · rw [he]
      rfl
    · rw [he]
      rfl

end Further

lemma exists_word {cs : List Char} (h : Scalar.Unmarked cs) (hne : cs ≠ []) :
    ∃ w rest, cs = w ++ rest ∧ w ≠ [] ∧ (∀ d ∈ w, isSolid d = true) ∧ Further rest := by
  obtain ⟨c, cs, rfl⟩ := List.exists_cons_of_ne_nil hne
  have hc : isSolid c = true := by
    have hspace := h.head c rfl
    have hbreak := h.unbroken c (by simp)
    simpa [isSolid, isSpace, hbreak] using hspace
  obtain ⟨w, rest, he, hne, hw, hrest, -⟩ := Scalar.exists_front hc cs
  rw [he] at h
  exact ⟨w, rest, he, hne, hw, .of_append h.ordinary h.unbroken h.last h.indicator hrest⟩

lemma exists_plainChars_cons {c : Char} {cs : List Char} (h : Scalar.Unmarked (c :: cs))
    (indent column : ℕ) : ∃ out, plainChars indent column (runs (c :: cs)) = c :: out ∧
      ∀ more, blankAhead more = true → blankAhead (out ++ more) = blankAhead cs := by
  obtain ⟨w, rest, he, hne, hw, hrest⟩ := exists_word h (by simp)
  obtain ⟨d, w, rfl⟩ := List.exists_cons_of_ne_nil hne
  obtain ⟨rfl, rfl⟩ := List.cons.inj he
  refine ⟨w ++ plainChars indent (column + (c :: w).length) (runs rest), ?_, fun more hmore => ?_⟩
  · rw [he, Scalar.runs_word hne hw hrest.head]
    rfl
  · cases w with
    | nil => exact (blankAhead_plainChars hrest hmore _).trans hrest.blankAhead.symm
    | cons d w => rfl

lemma further_line {least k : ℕ} {p : Place} (hk : k < least) (hrest : LineStart rest) :
    further false least p ('\n' :: (spaces k ++ rest)) = ⟨[], 1 + k, true⟩ := by
  refine further_stop (gap_line hrest.space hrest.break_ (hrest.atSeparator k)) (.inr ?_)
  have htake : ('\n' :: (spaces k ++ rest)).take (1 + k) = '\n' :: spaces k := by
    rw [Nat.add_comm, List.take_succ_cons, List.take_left' (by simp [spaces])]
  simpa only [htake, Place.column_after_line] using hk

section Line

variable {indent least k : ℕ} {cs : List Char}

lemma further_plainChars (hleast : least ≤ indent) (hk : k < least) (hrest : LineStart rest)
    (hcs : Further cs) (column : ℕ) {p : Place} (hp : least ≤ p.column) :
    further false least p (plainChars indent column (runs cs) ++ '\n' :: (spaces k ++ rest)) =
      ⟨cs, (plainChars indent column (runs cs)).length + (1 + k), true⟩ := by
  induction hn : cs.length using Nat.strongRecOn generalizing cs column p with
  | _ n ih =>
    rcases hcs.eq_nil_or with rfl | ⟨m, w, tail, rfl, hne, hw, hcomment, htail⟩
    · simpa [runs, plainChars] using further_line hk hrest
    · have hblank : ∀ c ∈ w, isBlank c = false := fun c hc =>
        isBlank_of_isSolid (hw c hc) (hcs.ordinary c (by simp [hc]))
      have hindicator : hasIndicator (w ++ tail) = false := hasIndicator_of_append hcs.indicator
      have hline : blankAhead ('\n' :: (spaces k ++ rest)) = true := rfl
      have hword (column : ℕ) : word false
          (w ++ (plainChars indent column (runs tail) ++ '\n' :: (spaces k ++ rest))) = w :=
        word_append hblank hindicator htail.blankAhead (blankAhead_plainChars htail hline column)
      have hsolid : Past isSpace w ∧ Past isBreak w := by
        constructor <;> intro c hc <;>
          have := Scalar.isSolid_iff.mp (hw c (List.mem_of_mem_head? hc)) <;>
          simp [isSpace, this]
      have hpast (more : List Char) : Past isSpace (w ++ more) ∧ Past isBreak (w ++ more) := by
        obtain ⟨d, u, rfl⟩ := List.exists_cons_of_ne_nil hne
        exact hsolid
      have hwbreak : ∀ c ∈ w, isBreak c = false := fun c hc => (Scalar.isSolid_iff.mp (hw c hc)).2
      have hshort : tail.length < n := by
        have := List.length_pos_iff.mpr hne
        simp only [List.length_append] at hn
        omega
      obtain ⟨column', he | ⟨rfl, he⟩⟩ :=
        plainChars_word (n := m) hne hw htail.head indent column
      · have hfront : least ≤ (p.after (spaces (m + 1))).column := by
          rw [Place.column_after_spaces]
          omega
        have hbehind : least ≤ (p.after (spaces (m + 1) ++ w)).column := by
          rw [Place.after_append]
          exact hfront.trans (Place.column_le_after hwbreak _)
        have htext : spaces (m + 1) ≠ [] := by simp [spaces]
        rw [he]
        simp only [List.append_assoc]
        refine (further_go (gap_spaces (hpast _).1 (hpast _).2) (by simp [spaces]) htext (hword _)
          hne hcomment hfront (ih _ hshort htail column' hbehind rfl)).trans ?_
        simp [Nat.add_assoc]
      · have hfront : least ≤ (p.after (continued indent)).column := by
          rw [continued, Place.column_after_line]
          exact hleast
        have hbehind : least ≤ (p.after (continued indent ++ w)).column := by
          rw [Place.after_append]
          exact hfront.trans (Place.column_le_after hwbreak _)
        have hseparator (more : List Char) : atSeparator (spaces indent ++ (w ++ more)) = false := by
          obtain ⟨i, rfl⟩ : ∃ i, indent = i + 1 := ⟨indent - 1, by omega⟩
          rfl
        rw [he]
        simp only [List.append_assoc]
        refine (further_go (gap_line (hpast _).1 (hpast _).2 (hseparator _))
          (by simp [continued, spaces, Nat.add_comm]) (by simp) (hword _) hne hcomment hfront
          (ih _ hshort htail column' hbehind rfl)).trans ?_
        simp [Nat.add_assoc, spaces]

lemma read_plainChars (hleast : least ≤ indent) (hk : k < least) (hrest : LineStart rest)
    (hne : cs ≠ []) (hcs : Scalar.Unmarked cs) (column : ℕ) {p : Place} (hp : least ≤ p.column) :
    read false least p (plainChars indent column (runs cs) ++ '\n' :: (spaces k ++ rest)) =
      ⟨cs, (plainChars indent column (runs cs)).length + (1 + k), true⟩ := by
  obtain ⟨w, tail, rfl, hwne, hw, hfurther⟩ := exists_word hcs hne
  have hblank : ∀ c ∈ w, isBlank c = false := fun c hc =>
    isBlank_of_isSolid (hw c hc) (hcs.ordinary c (by simp [hc]))
  have hword (column : ℕ) : word false
      (w ++ (plainChars indent column (runs tail) ++ '\n' :: (spaces k ++ rest))) = w :=
    word_append hblank hcs.indicator hfurther.blankAhead (blankAhead_plainChars hfurther rfl column)
  have hbehind : least ≤ (p.after w).column :=
    hp.trans (Place.column_le_after (fun c hc => (Scalar.isSolid_iff.mp (hw c hc)).2) p)
  rw [Scalar.runs_word hwne hw hfurther.head, plainChars, read]
  simp only [List.append_assoc, hword, List.drop_left,
    further_plainChars hleast hk hrest hfurther _ hbehind]
  simp [Nat.add_assoc]

end Line

lemma read_key {least : ℕ} (hw : ∀ c ∈ w, isBlank c = false ∧ c ≠ ':')
    (hrest : blankAhead rest = true) (p : Place) :
    read false least p (w ++ ':' :: rest) = ⟨w, w.length, false⟩ := by
  have hword : word false (w ++ ':' :: rest) = w := by
    induction w with
    | nil => simp [word, hrest, isBlank, isBreak]
    | cons c w ih =>
      rw [List.cons_append, word, ih fun d hd => hw d (by simp [hd])]
      simp [hw c (by simp)]
  have hgap : gap (':' :: rest) = ⟨0, [], false⟩ :=
    gap_spaces (n := 0) (by simp [Past, isSpace]) (by simp [Past, isBreak])
  have hfurther (q : Place) : further false least q (':' :: rest) = ⟨[], 0, false⟩ := by
    rw [further, hgap]
    split
    · rfl
    · simp
  simp only [read, hword, List.drop_left, hfurther]
  simp

end Unquoted

end ScenarioScript.Yaml
