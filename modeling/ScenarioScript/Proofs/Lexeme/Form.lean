import ScenarioScript.Proofs.Lexeme.Cover
import ScenarioScript.Proofs.Lexeme.Quoted

namespace ScenarioScript

namespace Lexeme

variable {form : List Char → Prop} {src rest cs : List Char} {c : Char}

def Longest (form : List Char → Prop) (src rest : List Char) : Prop :=
  form src ∧ ∀ more, more <+: rest → form (src ++ more) → more = []

/-- It ends as soon as it can, and nowhere but at the end of the line if it never can. -/
def Shortest (form : List Char → Prop) (src rest : List Char) : Prop :=
  (form src ∧ ∀ p, p <+: src → form p → p = src) ∨ (rest = [] ∧ ∀ p, p <+: src → ¬form p)

def Widest (form : List Char → Prop) (pre src rest : List Char) : Prop :=
  form src ∧ ∀ before more, before <:+ pre → more <+: rest → form (before ++ (src ++ more)) →
    before = [] ∧ more = []

lemma longest_of_head? (h : form src) (hhead : ∀ d ∈ rest.head?, ∀ more, ¬form (src ++ d :: more)) :
    Longest form src rest := by
  refine ⟨h, fun more hmore hform => ?_⟩
  cases more with
  | nil => rfl
  | cons d more =>
    obtain ⟨rest, rfl⟩ := hmore
    exact absurd hform (hhead d rfl more)

lemma not_of_head?_takeWhile {p : Char → Bool} (h : cs.takeWhile p ++ rest = cs) :
    ∀ d ∈ rest.head?, p d = false := by
  have hrest : rest = cs.dropWhile p :=
    List.append_cancel_left (h.trans List.takeWhile_append_dropWhile.symm)
  have hhead := List.head?_dropWhile_not p cs
  intro d hd
  rw [← hrest, hd] at hhead
  exact hhead

def IsTarget (cs : List Char) : Prop :=
  ∃ digits, cs = '#' :: digits ∧ digits ≠ [] ∧ ∀ d ∈ digits, d.isDigit = true

lemma longest_target (h : startsWithDigit cs = true) (hrest : digitRun cs ++ rest = cs) :
    Longest IsTarget ('#' :: digitRun cs) rest := by
  refine longest_of_head? ⟨_, rfl, digitRun_ne_nil h, fun d hd => List.mem_takeWhile_imp hd⟩ ?_
  rintro d hd more ⟨digits, heq, -, hdigits⟩
  have hmem : d ∈ digits := by
    obtain ⟨-, rfl⟩ := List.cons.inj heq
    simp
  have hstop := not_of_head?_takeWhile hrest d hd
  simp [hdigits d hmem] at hstop

def IsNumber (cs : List Char) : Prop :=
  ∃ sign digits fraction, cs = sign ++ (digits ++ fraction) ∧ (sign = [] ∨ sign = ['-']) ∧
    digits ≠ [] ∧ (∀ d ∈ digits, d.isDigit = true) ∧
    (fraction = [] ∨ ∃ further, fraction = '.' :: further ∧ ∀ d ∈ further, d.isDigit = true)

lemma digit_or_point {digits fraction : List Char} (hdigits : ∀ d ∈ digits, d.isDigit = true)
    (hfraction : fraction = [] ∨
      ∃ further, fraction = '.' :: further ∧ ∀ d ∈ further, d.isDigit = true) :
    ∀ d ∈ digits ++ fraction, d.isDigit = true ∨ d = '.' := by
  intro d hd
  rcases List.mem_append.mp hd with hd | hd
  · exact .inl (hdigits d hd)
  · rcases hfraction with rfl | ⟨further, rfl, hfurther⟩
    · simp at hd
    · rcases List.mem_cons.mp hd with rfl | hd
      · exact .inr rfl
      · exact .inl (hfurther d hd)

lemma IsNumber.of_mem_tail (h : IsNumber cs) : ∀ d ∈ cs.tail, d.isDigit = true ∨ d = '.' := by
  obtain ⟨sign, digits, fraction, rfl, hsign, hne, hdigits, hfraction⟩ := h
  have hbehind := digit_or_point hdigits hfraction
  rcases hsign with rfl | rfl
  · exact fun d hd => hbehind d (List.mem_of_mem_tail hd)
  · exact hbehind

lemma count_point {digits : List Char} (h : ∀ d ∈ digits, d.isDigit = true) :
    digits.count '.' = 0 :=
  List.count_eq_zero.mpr fun hmem => absurd (h '.' hmem) (by decide)

lemma IsNumber.count_le (h : IsNumber cs) : cs.count '.' ≤ 1 := by
  obtain ⟨sign, digits, fraction, rfl, hsign, -, hdigits, hfraction⟩ := h
  have hs : sign.count '.' = 0 := by rcases hsign with rfl | rfl <;> rfl
  have hf : fraction.count '.' ≤ 1 := by
    rcases hfraction with rfl | ⟨further, rfl, hfurther⟩
    · exact Nat.zero_le 1
    · rw [List.count_cons_self, count_point hfurther]
  rw [List.count_append, List.count_append, hs, count_point hdigits]
  omega

lemma IsNumber.of_next {d : Char} {more : List Char} (h : IsNumber (src ++ d :: more))
    (hsrc : src ≠ []) : d.isDigit = true ∨ d = '.' ∧ '.' ∉ src := by
  have hmem : d ∈ (src ++ d :: more).tail := by
    rw [List.tail_append_of_ne_nil hsrc]
    simp
  rcases h.of_mem_tail d hmem with hd | rfl
  · exact .inl hd
  · have hcount := h.count_le
    rw [List.count_append, List.count_cons_self] at hcount
    exact .inr ⟨rfl, List.count_eq_zero.mp (by omega)⟩

lemma numberTail_eq (hrest : numberTail cs ++ rest = cs) : ∃ fraction,
    numberTail cs = digitRun cs ++ fraction ∧
      (fraction = [] ∨ ∃ further, fraction = '.' :: further ∧ ∀ d ∈ further, d.isDigit = true) ∧
      ∀ d ∈ rest.head?, d.isDigit = false ∧ (d = '.' → '.' ∈ fraction) := by
  unfold numberTail at hrest ⊢
  split at hrest
  · next behind hdrop =>
    have hcs : digitRun cs ++ '.' :: behind = cs := by
      rw [← hdrop]
      exact List.takeWhile_append_dropWhile
    have hbehind : digitRun behind ++ rest = behind := by
      have happend := hrest.trans hcs.symm
      rw [List.append_assoc] at happend
      exact (List.cons.inj (List.append_cancel_left happend)).2
    refine ⟨'.' :: digitRun behind, rfl, .inr ⟨_, rfl, fun d hd => List.mem_takeWhile_imp hd⟩, ?_⟩
    exact fun d hd => ⟨not_of_head?_takeWhile hbehind d hd, fun _ => by simp⟩
  · next hpoint =>
    have hdrop : cs.dropWhile Char.isDigit = rest :=
      List.append_cancel_left (List.takeWhile_append_dropWhile.trans hrest.symm)
    refine ⟨[], (List.append_nil _).symm, .inl rfl, fun d hd => ?_⟩
    refine ⟨not_of_head?_takeWhile hrest d hd, ?_⟩
    rintro rfl
    cases rest with
    | nil => simp at hd
    | cons e rest =>
      obtain rfl := Option.some.inj hd
      exact absurd hdrop (hpoint rest)

lemma longest_number (hc : c.isDigit = true ∨ c = '-' ∧ startsWithDigit cs = true)
    (hrest : numberTail cs ++ rest = cs) : Longest IsNumber (c :: numberTail cs) rest := by
  obtain ⟨fraction, htail, hfraction, hstop⟩ := numberTail_eq hrest
  have hdigits : ∀ d ∈ digitRun cs, d.isDigit = true := fun d hd => List.mem_takeWhile_imp hd
  apply longest_of_head?
  · rw [htail]
    rcases hc with hc | ⟨rfl, hstart⟩
    · exact ⟨[], c :: digitRun cs, fraction, rfl, .inl rfl, by simp,
        List.forall_mem_cons.mpr ⟨hc, hdigits⟩, hfraction⟩
    · exact ⟨['-'], digitRun cs, fraction, rfl, .inr rfl, digitRun_ne_nil hstart, hdigits, hfraction⟩
  · intro d hd more hmore
    obtain ⟨hdigit, hpoint⟩ := hstop d hd
    rcases hmore.of_next (by simp) with h | ⟨rfl, hnone⟩
    · simp [hdigit] at h
    · exact hnone (by simp [htail, hpoint rfl])

def IsName (cs : List Char) : Prop :=
  (∃ c ∈ cs.head?, Text.isLetter c = true ∨ c = '_') ∧ ∀ c ∈ cs, isWordChar c = true

lemma isWordChar_of_letter (hc : Text.isLetter c = true ∨ c = '_') : isWordChar c = true := by
  rcases hc with hc | hc <;> simp [isWordChar, hc]

lemma longest_name (hc : Text.isLetter c = true ∨ c = '_') (hrest : wordTail cs ++ rest = cs) :
    Longest IsName (c :: wordTail cs) rest := by
  apply longest_of_head?
  · refine ⟨⟨c, rfl, hc⟩, List.forall_mem_cons.mpr ⟨isWordChar_of_letter hc, ?_⟩⟩
    exact fun d hd => List.mem_takeWhile_imp hd
  · rintro d hd more ⟨-, hword⟩
    have hstop := not_of_head?_takeWhile hrest d hd
    simp [hword d (by simp)] at hstop

lemma IsName.of_append {more : List Char} (h : IsName (cs ++ more)) (hne : cs ≠ []) :
    IsName cs := by
  obtain ⟨hhead, hword⟩ := h
  rw [List.head?_append_of_ne_nil cs hne] at hhead
  exact ⟨hhead, fun c hc => hword c (List.mem_append_left more hc)⟩

lemma widest_name {pre : List Char} (hc : Text.isLetter c = true ∨ c = '_')
    (hrest : wordTail cs ++ rest = cs)
    (hfirst : ∀ before, before <:+ pre → IsName (before ++ c :: wordTail cs) → before = []) :
    Widest IsName pre (c :: wordTail cs) rest := by
  obtain ⟨hname, hlongest⟩ := longest_name hc hrest
  refine ⟨hname, fun before more hbefore hmore h => ?_⟩
  rw [← List.append_assoc] at h
  obtain rfl := hfirst before hbefore (h.of_append (by simp))
  exact ⟨rfl, hlongest more hmore h⟩

structure Balanced (cs : List Char) : Prop where
  sane : ∀ p, p <+: cs → p.count ']' ≤ p.count '['
  settled : cs.count ']' = cs.count '['

def IsArray (cs : List Char) : Prop :=
  cs ≠ [] ∧ Balanced cs

lemma arrayTail_cases (depth : ℕ) (cs : List Char) : arrayTail depth cs = cs ∨
    ∃ inside, arrayTail depth cs = inside ++ [']'] ∧
      inside.count ']' = inside.count '[' + depth := by
  fun_induction arrayTail depth cs with
  | case1 => exact .inl rfl
  | case2 depth cs ih =>
    rcases ih with htail | ⟨inside, htail, hcount⟩
    · exact .inl (by rw [htail])
    · refine .inr ⟨'[' :: inside, by rw [htail]; rfl, ?_⟩
      rw [List.count_cons_self, List.count_cons_of_ne (by decide), hcount]
      omega
  | case3 cs => exact .inr ⟨[], rfl, rfl⟩
  | case4 cs depth ih =>
    rcases ih with htail | ⟨inside, htail, hcount⟩
    · exact .inl (by rw [htail])
    · refine .inr ⟨']' :: inside, by rw [htail]; rfl, ?_⟩
      rw [List.count_cons_self, List.count_cons_of_ne (by decide), hcount]
      omega
  | case5 depth c cs ho hc ih =>
    rcases ih with htail | ⟨inside, htail, hcount⟩
    · exact .inl (by rw [htail])
    · refine .inr ⟨c :: inside, by rw [htail]; rfl, ?_⟩
      rw [List.count_cons_of_ne hc, List.count_cons_of_ne ho, hcount]

lemma count_prefix_arrayTail (depth : ℕ) (cs : List Char) {p : List Char}
    (h : p <+: arrayTail depth cs) :
    p.count ']' ≤ p.count '[' + depth ∨ p = arrayTail depth cs := by
  fun_induction arrayTail depth cs generalizing p with
  | case1 => exact .inr (List.prefix_nil.mp h)
  | case2 depth cs ih =>
    rcases List.prefix_cons_iff.mp h with rfl | ⟨p, rfl, hp⟩
    · exact .inl (Nat.zero_le _)
    · refine (ih hp).imp (fun h => ?_) (congrArg _)
      rw [List.count_cons_self, List.count_cons_of_ne (by decide)]
      omega
  | case3 cs =>
    rcases List.prefix_cons_iff.mp h with rfl | ⟨p, rfl, hp⟩
    · exact .inl (Nat.zero_le _)
    · exact .inr (congrArg _ (List.prefix_nil.mp hp))
  | case4 cs depth ih =>
    rcases List.prefix_cons_iff.mp h with rfl | ⟨p, rfl, hp⟩
    · exact .inl (Nat.zero_le _)
    · refine (ih hp).imp (fun h => ?_) (congrArg _)
      rw [List.count_cons_self, List.count_cons_of_ne (by decide)]
      omega
  | case5 depth c cs ho hc ih =>
    rcases List.prefix_cons_iff.mp h with rfl | ⟨p, rfl, hp⟩
    · exact .inl (Nat.zero_le _)
    · refine (ih hp).imp (fun h => ?_) (congrArg _)
      rw [List.count_cons_of_ne hc, List.count_cons_of_ne ho]
      exact h

lemma eq_of_isArray {p : List Char} (hp : p <+: '[' :: arrayTail 0 cs) (h : IsArray p) :
    p = '[' :: arrayTail 0 cs := by
  obtain ⟨hne, hbalanced⟩ := h
  rcases List.prefix_cons_iff.mp hp with rfl | ⟨q, rfl, hq⟩
  · exact absurd rfl hne
  · have hsettled := hbalanced.settled
    rw [List.count_cons_of_ne (by decide), List.count_cons_self] at hsettled
    rcases count_prefix_arrayTail 0 cs hq with hopen | rfl
    · omega
    · rfl

lemma isArray_arrayTail {inside : List Char} (htail : arrayTail 0 cs = inside ++ [']'])
    (hcount : inside.count ']' = inside.count '[') : IsArray ('[' :: arrayTail 0 cs) := by
  have hsettled : (arrayTail 0 cs).count ']' = (arrayTail 0 cs).count '[' + 1 := by
    rw [htail, List.count_append, List.count_append, hcount]
    rfl
  refine ⟨by simp, fun p hp => ?_, ?_⟩
  · rcases List.prefix_cons_iff.mp hp with rfl | ⟨q, rfl, hq⟩
    · exact le_rfl
    · rw [List.count_cons_of_ne (by decide), List.count_cons_self]
      rcases count_prefix_arrayTail 0 cs hq with hopen | rfl
      · omega
      · exact hsettled.le
  · rw [List.count_cons_of_ne (by decide), List.count_cons_self, hsettled]

lemma shortest_array (hrest : arrayTail 0 cs ++ rest = cs) :
    Shortest IsArray ('[' :: arrayTail 0 cs) rest := by
  by_cases hclosed : IsArray ('[' :: arrayTail 0 cs)
  · exact .inl ⟨hclosed, fun p hp => eq_of_isArray hp⟩
  · refine .inr ⟨?_, fun p hp h => hclosed (eq_of_isArray hp h ▸ h)⟩
    rcases arrayTail_cases 0 cs with htail | ⟨inside, htail, hcount⟩
    · rw [htail] at hrest
      exact List.append_right_eq_self.mp hrest
    · exact absurd (isArray_arrayTail htail hcount) hclosed

lemma shortest_string (hrest : stringTail cs ++ rest = cs) :
    Shortest IsQuoted ('"' :: stringTail cs) rest := by
  rcases stringTail_cases cs with ⟨inside, htail, -, hcloses⟩ | ⟨htail, -, hopen⟩
  · obtain ⟨-, hinside⟩ := (hcloses inside).mpr rfl
    refine .inl ⟨⟨inside, by rw [htail], hinside⟩, ?_⟩
    rintro p hp ⟨inside', rfl, hinside'⟩
    obtain rfl := (hcloses inside').mp ⟨(List.prefix_cons_inj _).mp hp, hinside'⟩
    rw [htail]
  · rw [htail] at hrest ⊢
    refine .inr ⟨List.append_right_eq_self.mp hrest, ?_⟩
    rintro p hp ⟨inside, rfl, hinside⟩
    exact hopen inside ⟨(List.prefix_cons_inj _).mp hp, hinside⟩

def Formed (t : Token) (pre src rest : List Char) : Prop :=
  match t.kind with
  | .number => Longest IsNumber src rest
  | .targetId => Longest IsTarget src rest
  | .keyword => Widest IsName pre src rest
  | .array => src.head? = some '[' ∧ Shortest IsArray src rest
  | .string => src.head? = some '"' ∧ Shortest IsQuoted src rest ∧
      ∃ inside, Inside src inside ∧ t.text = String.ofList (decoded inside)
  | .braceOpen => src = ['{']
  | .braceClose => src = ['}']

lemma formed_of_reaches {kind : TokenKind} {pre tail : List Char} (h : Reaches c cs kind tail)
    (hrest : tail ++ rest = cs)
    (hfirst : ∀ before, before <:+ pre → IsName (before ++ c :: tail) → before = [])
    (line : ℤ) (column : ℕ) :
    Formed ⟨kind, kind.textOf c tail, line, column⟩ pre (c :: tail) rest := by
  cases h with
  | number hdigit => exact longest_number hdigit hrest
  | targetId hdigit => exact longest_target hdigit hrest
  | keyword hc => exact widest_name hc hrest hfirst
  | array => exact ⟨rfl, shortest_array hrest⟩
  | string =>
    obtain ⟨inside, hinside, htext⟩ := exists_inside cs
    refine ⟨rfl, shortest_string hrest, inside, hinside, ?_⟩
    rw [TokenKind.textOf, stringText_stringTail, htext]
  | braceOpen => rfl
  | braceClose => rfl

lemma not_letter_of_isDigit (h : c.isDigit = true) : ¬(Text.isLetter c = true ∨ c = '_') := by
  rintro (hletter | rfl)
  · simp [isLetter_of_isDigit h] at hletter
  · exact absurd h (by decide)

lemma Reaches.not_letter {c d : Char} {cs tail rest : List Char} {kind : TokenKind}
    (h : Reaches c cs kind tail) (hcs : tail ++ d :: rest = cs) (hd : isWordChar d = true)
    (hlast : ∀ x ∈ (c :: tail).getLast?, isWordChar x = true) :
    ∀ x ∈ c :: tail, ¬(Text.isLetter x = true ∨ x = '_') := by
  cases h with
  | string =>
    rcases stringTail_cases cs with ⟨inside, htail, -⟩ | ⟨htail, -⟩
    · rw [htail, ← List.cons_append] at hlast
      exact absurd (hlast '"' List.getLast?_concat) (by decide)
    · rw [htail] at hcs
      simp at hcs
  | array =>
    rcases arrayTail_cases 0 cs with htail | ⟨inside, htail, -⟩
    · rw [htail] at hcs
      simp at hcs
    · rw [htail, ← List.cons_append] at hlast
      exact absurd (hlast ']' List.getLast?_concat) (by decide)
  | keyword hc =>
    have hstop := not_of_head?_takeWhile hcs d rfl
    simp [hd] at hstop
  | targetId h =>
    refine List.forall_mem_cons.mpr ⟨by decide, fun x hx => not_letter_of_isDigit ?_⟩
    exact List.mem_takeWhile_imp hx
  | number h =>
    obtain ⟨hnumber, -⟩ := longest_number h hcs
    refine List.forall_mem_cons.mpr ⟨?_, fun x hx => ?_⟩
    · rcases h with hdigit | ⟨rfl, -⟩
      · exact not_letter_of_isDigit hdigit
      · decide
    · rcases hnumber.of_mem_tail x hx with hdigit | rfl
      · exact not_letter_of_isDigit hdigit
      · decide
  | braceOpen | braceClose =>
    rintro x hx
    obtain rfl := List.mem_singleton.mp hx
    decide

lemma getElem?_between (pre mid post : List Char) {i : ℕ} (hi : pre.length ≤ i)
    (hlt : i < pre.length + mid.length) : (pre ++ (mid ++ post))[i]? = mid[i - pre.length]? := by
  rw [List.getElem?_append_right hi, List.getElem?_append_left (by omega)]

end Lexeme

namespace Walk

open Lexeme

variable {n : ℤ} {s : String} {t : Token}

lemma not_letter_of_mem_ofLine {i : ℕ} {c last next : Char} (ht : t ∈ Token.ofLine n s)
    (hle : t.column ≤ i) (hlt : i < Lexeme.stop s.toList t.column) (hc : s.toList[i]? = some c)
    (hlast : s.toList[Lexeme.stop s.toList t.column - 1]? = some last)
    (hlastword : isWordChar last = true)
    (hnext : s.toList[Lexeme.stop s.toList t.column]? = some next)
    (hnextword : isWordChar next = true) : ¬(Text.isLetter c = true ∨ c = '_') := by
  obtain ⟨pre, d, tail, rest, kind, hs, hreach, rfl⟩ := Token.exists_reach_of_mem_ofLine ht
  have hstop := stop_append (Prod.ext_iff.mp hreach).2 pre
  have hinside (j : ℕ) (hj : pre.length ≤ j) (hj' : j < pre.length + (d :: tail).length) :
      s.toList[j]? = (d :: tail)[j - pre.length]? := by
    rw [hs]
    exact getElem?_between pre (d :: tail) rest hj hj'
  dsimp only at hle hlt hlast hnext
  rw [← hs] at hstop
  rw [hstop] at hlt hlast hnext
  have hrest : rest.head? = some next := by
    rw [hs, ← List.cons_append, ← List.append_assoc, ← List.length_append,
      List.getElem?_append_right le_rfl, Nat.sub_self] at hnext
    exact List.head?_eq_getElem?.trans hnext
  cases rest with
  | nil => simp at hrest
  | cons e rest =>
    obtain rfl := Option.some.inj hrest
    refine (reaches_of_reach hreach).not_letter rfl hnextword (fun x hx => ?_) c ?_
    · have hindex : pre.length + (d :: tail).length - 1 - pre.length = (d :: tail).length - 1 := by
        omega
      rw [hinside _ (by simp) (by simp), hindex, ← List.getLast?_eq_getElem?] at hlast
      obtain rfl := Option.some.inj (hlast.symm.trans hx)
      exact hlastword
    · rw [hinside i hle hlt] at hc
      exact List.mem_of_getElem? hc

lemma eq_nil_of_name_before (ht : t ∈ Token.ofLine n s) {pre before src rest : List Char}
    (hs : s.toList = pre ++ (src ++ rest)) (hcolumn : t.column = pre.length) (hsrc : src ≠ [])
    (hbefore : before <:+ pre) (hname : IsName (before ++ src)) : before = [] := by
  obtain ⟨outer, rfl⟩ := hbefore
  cases before with
  | nil => rfl
  | cons b before =>
    exfalso
    obtain ⟨⟨c, hc, hletter⟩, hword⟩ := hname
    obtain rfl := Option.some.inj hc
    have hcover := Token.covers_ofLine n (Token.not_remark_of_mem_ofLine ht)
    have hlength : t.column = outer.length + (b :: before).length := by
      rw [hcolumn, List.length_append]
    have hpos : 0 < src.length := List.length_pos_iff.mpr hsrc
    have hsplit : s.toList = outer ++ ((b :: before ++ src) ++ rest) := by
      rw [hs, List.append_assoc, List.append_assoc]
    have hinside (j : ℕ) (hj : outer.length ≤ j) (hj' : j ≤ t.column) :
        ∃ x, s.toList[j]? = some x ∧ isWordChar x = true := by
      have hlt : j - outer.length < (b :: before ++ src).length := by
        rw [List.length_append]
        omega
      refine ⟨_, ?_, hword _ (List.getElem_mem hlt)⟩
      rw [hsplit, getElem?_between outer _ rest hj (by omega), List.getElem?_eq_getElem hlt]
    have hb : s.toList[outer.length]? = some b := by simp [hsplit]
    -- The letter in front is inside of another lexeme, and the name goes on behind that one.
    obtain ⟨u, hu, hle, hlt⟩ := hcover.exists_mem (Nat.zero_le _) hb (not_idle_of_letter hletter)
    have hbehind : Lexeme.stop s.toList u.column ≤ t.column := by
      apply hcover.stop_le hu ht
      rw [List.length_cons] at hlength
      omega
    obtain ⟨last, hlast, hlastword⟩ := hinside (Lexeme.stop s.toList u.column - 1) (by omega) (by omega)
    obtain ⟨next, hnext, hnextword⟩ := hinside (Lexeme.stop s.toList u.column) (by omega) hbehind
    exact not_letter_of_mem_ofLine hu hle hlt hb hlast hlastword hnext hnextword hletter

/-- Each token has the form of its kind, and ends where that form does: numbers, target ids and words
reach as far as they can, strings and arrays no further than they must. -/
theorem tokens_formed (n : ℤ) (s : String) (c : Cursor) :
    ∃ ts, (lineTokens n s).on c = (.ok ts, c) ∧ ∀ t ∈ ts, ∃ pre src rest,
      s.toList = pre ++ (src ++ rest) ∧ t.column = pre.length ∧
      (lexemeAt n s.toList t.column).on c = (.ok (some t, pre.length + src.length), c) ∧
      Formed t pre src rest := by
  refine ⟨Token.ofLine n s, by rw [lineTokens_eq, on_pure], fun t ht => ?_⟩
  obtain ⟨pre, d, tail, rest, kind, hs, hreach, rfl⟩ := Token.exists_reach_of_mem_ofLine ht
  refine ⟨pre, d :: tail, rest, hs, rfl, ?_, ?_⟩
  · rw [lexemeAt_of_mem_ofLine ht, on_pure, hs]
    dsimp only
    rw [stop_append (Prod.ext_iff.mp hreach).2 pre]
  · refine formed_of_reaches (reaches_of_reach hreach) rfl (fun before hbefore hname => ?_) n _
    exact eq_nil_of_name_before ht hs rfl (by simp) hbefore hname

end Walk

end ScenarioScript
