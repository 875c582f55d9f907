import Mathlib.Data.List.TakeWhile
import ScenarioScript.Lexeme

namespace ScenarioScript

namespace Lexeme

lemma prefix_stringTail (cs : List Char) : stringTail cs <+: cs := by
  fun_induction stringTail cs with
  | case1 => exact List.prefix_rfl
  | case2 cs => exact ⟨cs, rfl⟩
  | case3 c cs ih => exact (List.prefix_cons_inj _).mpr ((List.prefix_cons_inj _).mpr ih)
  | case4 c cs _ _ ih => exact (List.prefix_cons_inj _).mpr ih

lemma stringText_stringTail (cs : List Char) : stringText (stringTail cs) = stringText cs := by
  fun_induction stringTail cs with
  | case1 => rfl
  | case2 cs => rfl
  | case3 c cs ih => rw [stringText, ih, stringText]
  | case4 c cs hq hb ih =>
    rw [stringText, ih, stringText]
    · exact hq
    · exact hb
    · exact hq
    · rintro d ds hc hcs
      cases cs with
      | nil => simp [stringTail] at hcs
      | cons e es => exact hb e es hc rfl

lemma prefix_arrayTail (depth : ℕ) (cs : List Char) : arrayTail depth cs <+: cs := by
  fun_induction arrayTail depth cs with
  | case1 => exact List.prefix_rfl
  | case3 cs => exact ⟨cs, rfl⟩
  | case2 d cs ih | case4 cs d ih => exact (List.prefix_cons_inj _).mpr ih
  | case5 d c cs _ _ ih => exact (List.prefix_cons_inj _).mpr ih

lemma prefix_digitRun (cs : List Char) : digitRun cs <+: cs :=
  List.takeWhile_prefix _

lemma prefix_numberTail (cs : List Char) : numberTail cs <+: cs := by
  unfold numberTail
  split
  · next rest h =>
    have hcs : digitRun cs ++ '.' :: rest = cs := by
      rw [← h]
      exact List.takeWhile_append_dropWhile
    conv => rhs; rw [← hcs]
    exact (List.prefix_append_right_inj _).mpr ((List.prefix_cons_inj _).mpr (prefix_digitRun rest))
  · exact prefix_digitRun cs

lemma prefix_reach (c : Char) (cs : List Char) : (reach c cs).2 <+: cs := by
  unfold reach
  split_ifs
  · exact List.nil_prefix
  · exact prefix_stringTail cs
  · exact prefix_digitRun cs
  · exact prefix_arrayTail 0 cs
  · exact List.nil_prefix
  · exact List.nil_prefix
  · exact prefix_numberTail cs
  · exact List.takeWhile_prefix _
  · exact List.nil_prefix

inductive Reaches : Char → List Char → TokenKind → List Char → Prop
  | string (cs : List Char) : Reaches '"' cs .string (stringTail cs)
  | targetId {cs : List Char} (h : startsWithDigit cs = true) : Reaches '#' cs .targetId (digitRun cs)
  | array (cs : List Char) : Reaches '[' cs .array (arrayTail 0 cs)
  | braceOpen (cs : List Char) : Reaches '{' cs .braceOpen []
  | braceClose (cs : List Char) : Reaches '}' cs .braceClose []
  | number {c : Char} {cs : List Char} (h : c.isDigit = true ∨ c = '-' ∧ startsWithDigit cs = true) :
      Reaches c cs .number (numberTail cs)
  | keyword {c : Char} (h : Text.isLetter c = true ∨ c = '_') (cs : List Char) :
      Reaches c cs .keyword (wordTail cs)

lemma reaches_of_reach {c : Char} {cs tail : List Char} {kind : TokenKind}
    (h : reach c cs = (some kind, tail)) : Reaches c cs kind tail := by
  unfold reach at h
  split_ifs at h with hblank hquote htarget harray hopen hclose hnumber hletter <;> cases h
  · exact hquote ▸ .string cs
  · obtain ⟨rfl, hdigit⟩ := by simpa using htarget
    exact .targetId hdigit
  · exact harray ▸ .array cs
  · exact hopen ▸ .braceOpen cs
  · exact hclose ▸ .braceClose cs
  · exact .number (by simpa using hnumber)
  · exact .keyword (by simpa using hletter) cs

lemma digitRun_ne_nil {cs : List Char} (h : startsWithDigit cs = true) : digitRun cs ≠ [] := by
  cases cs with
  | nil => simp [startsWithDigit] at h
  | cons c cs =>
    have hc : c.isDigit = true := h
    simp [digitRun, hc]

lemma reach_induction {motive : List Char → List Char → Prop} (nil : ∀ pre, motive pre [])
    (cons : ∀ pre c tail rest, (reach c (tail ++ rest)).2 = tail → motive (pre ++ c :: tail) rest →
      motive pre (c :: (tail ++ rest))) (pre cs : List Char) : motive pre cs := by
  induction hn : cs.length using Nat.strongRecOn generalizing pre cs with
  | _ n ih =>
    cases cs with
    | nil => exact nil pre
    | cons c cs =>
      obtain ⟨rest, hrest⟩ := prefix_reach c cs
      have hlt : rest.length < n := by
        rw [← hn, ← hrest, List.length_cons, List.length_append]
        omega
      have htail : (reach c ((reach c cs).2 ++ rest)).2 = (reach c cs).2 := by rw [hrest]
      have h := cons pre c (reach c cs).2 rest htail (ih _ hlt (pre ++ c :: (reach c cs).2) rest rfl)
      rwa [hrest] at h

end Lexeme

namespace Token

open Lexeme

lemma ofChars_reach {c : Char} {tail rest : List Char} (h : (reach c (tail ++ rest)).2 = tail)
    (line : ℤ) (column : ℕ) : ofChars line column (c :: (tail ++ rest)) =
      ((reach c (tail ++ rest)).1.map fun kind => ⟨kind, kind.textOf c tail, line, column⟩).toList ++
        ofChars line (column + (c :: tail).length) rest := by
  have hlength : column + (c :: tail).length = column + 1 + tail.length := by
    rw [List.length_cons]
    omega
  rw [ofChars_cons, h, hlength]
  simp only [List.drop_left]
  cases (reach c (tail ++ rest)).1 <;> rfl

lemma ofChars_lexeme {c : Char} {tail rest : List Char} {kind : TokenKind}
    (h : reach c (tail ++ rest) = (some kind, tail)) (line : ℤ) (column : ℕ) :
    ofChars line column (c :: (tail ++ rest)) =
      ⟨kind, kind.textOf c tail, line, column⟩ :: ofChars line (column + (c :: tail).length) rest := by
  rw [ofChars_reach (by rw [h]), h]
  rfl

end Token

end ScenarioScript
