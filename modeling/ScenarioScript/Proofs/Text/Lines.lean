import Mathlib.Data.List.Basic
import Mathlib.Data.List.TakeWhile
import ScenarioScript.Text.Lines

namespace ScenarioScript.Text

lemma linesOf_cons_of_break {c : Char} (hc : isLineBreak c = true) (h : c ≠ '\r') (cs : List Char) :
    linesOf (c :: cs) = [] :: linesOf cs := by
  rw [linesOf]
  · simp [hc]
  · intro ds he
    exact (h he).elim

lemma linesOf_cons {c : Char} (hc : isLineBreak c = false) (cs : List Char) :
    linesOf (c :: cs) = match linesOf cs with
      | [] => [[c]]
      | l :: ls => (c :: l) :: ls := by
  have h : ∀ ds, c = '\r' → cs = '\n' :: ds → False := by
    rintro ds rfl
    simp [isLineBreak] at hc
  exact (linesOf.eq_3 c cs h).trans (if_neg (by simp [hc]))

lemma linesOf_line {l : List Char} (hl : ∀ c ∈ l, isLineBreak c = false) (cs : List Char) :
    linesOf (l ++ '\n' :: cs) = l :: linesOf cs := by
  induction l with
  | nil => exact linesOf_cons_of_break rfl (by decide) cs
  | cons c l ih =>
    have hc := hl c (by simp)
    rw [List.cons_append, linesOf_cons hc, ih (fun d hd => hl d (by simp [hd]))]

lemma isLineBreak_of_mem_linesOf {cs l : List Char} {c : Char} (hl : l ∈ linesOf cs) (hc : c ∈ l) :
    isLineBreak c = false := by
  fun_induction linesOf cs generalizing l with
  | case1 => simp at hl
  | case2 cs ih =>
    rcases List.mem_cons.mp hl with rfl | hl
    · simp at hc
    · exact ih hl hc
  | case3 d cs _ hd ih =>
    rcases List.mem_cons.mp hl with rfl | hl
    · simp at hc
    · exact ih hl hc
  | case4 d cs _ hd he ih =>
    obtain rfl : l = [d] := by simpa using hl
    obtain rfl : c = d := by simpa using hc
    simpa using hd
  | case5 d cs _ hd k ks he ih =>
    rcases List.mem_cons.mp hl with rfl | hl
    · rcases List.mem_cons.mp hc with rfl | hc
      · simpa using hd
      · exact ih (by simp [he]) hc
    · exact ih (by simp [he, hl]) hc

lemma linesOf_return {cs : List Char} (h : ∀ ds, cs ≠ '\n' :: ds) :
    linesOf ('\r' :: cs) = [] :: linesOf cs := by
  rw [linesOf]
  · rfl
  · exact fun ds _ he => h ds he

lemma linesOf_unifyBreaks (cs : List Char) : linesOf (unifyBreaks cs) = linesOf cs := by
  fun_induction unifyBreaks cs with
  | case1 => rfl
  | case2 cs ih =>
    rw [linesOf_cons_of_break rfl (by decide), ih]
    rfl
  | case3 cs h ih =>
    rw [linesOf_cons_of_break rfl (by decide), ih, linesOf_return fun ds he => h ds he]
  | case4 c cs _ hr ih =>
    by_cases hc : isLineBreak c = true
    · rw [linesOf_cons_of_break hc hr, linesOf_cons_of_break hc hr, ih]
    · rw [linesOf_cons (by simpa using hc), linesOf_cons (by simpa using hc), ih]

lemma trim_eq_nil_iff (cs : List Char) : trim cs = [] ↔ ∀ c ∈ cs, isBlank c = true := by
  simp only [trim, trimRight, trimLeft, List.reverse_eq_nil_iff, List.dropWhile_eq_nil_iff,
    List.mem_reverse]
  constructor
  · intro h c hc
    rw [← List.takeWhile_append_dropWhile (p := isBlank) (l := cs), List.mem_append] at hc
    exact hc.elim List.mem_takeWhile_imp (h c)
  · exact fun h c hc => h c ((List.dropWhile_sublist _).subset hc)

lemma forall_blank_unifyBreaks (cs : List Char) :
    (∀ c ∈ unifyBreaks cs, isBlank c = true) ↔ ∀ c ∈ cs, isBlank c = true := by
  have hreturn : isBlank '\r' = true := rfl
  have hfeed : isBlank '\n' = true := rfl
  fun_induction unifyBreaks cs with
  | case1 => rfl
  | case2 cs ih => simp [hreturn, hfeed, ih]
  | case3 cs _ ih => simp [hreturn, hfeed, ih]
  | case4 c cs _ _ ih => simp [ih]

lemma trim_unifyBreaks (cs : List Char) : trim (unifyBreaks cs) = [] ↔ trim cs = [] := by
  rw [trim_eq_nil_iff, trim_eq_nil_iff, forall_blank_unifyBreaks]

end ScenarioScript.Text
