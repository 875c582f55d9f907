import ScenarioScript.Proofs.Lexeme.Reach
import ScenarioScript.Proofs.Walk
import ScenarioScript.Walk.Lexeme

namespace ScenarioScript.Walk

open Lexeme

lemma slice_append (pre mid post : List Char) :
    slice (pre ++ (mid ++ post)) pre.length (pre.length + mid.length) = String.ofList mid := by
  rw [slice, ← List.append_assoc, List.take_append_of_le_length (by simp),
    List.take_of_length_le (by simp), List.drop_left]

lemma behind?_append (pre : List Char) (c : Char) (cs : List Char) :
    behind? (pre ++ c :: cs) pre.length = pure cs.head? := by
  cases cs with
  | nil => simp [behind?]
  | cons d ds =>
    have hd : charAt (pre ++ c :: d :: ds) (pre.length + 1) = pure d := by
      simpa using charAt_append (pre ++ [c]) d ds
    simp [behind?, hd]

lemma runEnd_append (p : Char → Bool) (pre cs : List Char) :
    runEnd p (pre ++ cs) pre.length = pure (pre.length + (cs.takeWhile p).length) := by
  induction cs generalizing pre with
  | nil => exact along_done (by simp [runTurn])
  | cons c cs ih =>
    cases hc : p c with
    | false =>
      rw [List.takeWhile_cons_of_neg (by simp [hc])]
      exact along_done (by simp [runTurn, hc])
    | true =>
      refine along_past [c] (by simp) (by simp [runTurn, hc]) ((ih (pre ++ [c])).trans ?_)
      simp [hc, Nat.add_assoc, Nat.add_comm 1]

lemma stringTurns_append (pre cs text : List Char) :
    along (pre ++ cs) (stringTurn (pre ++ cs)) text pre.length =
      pure (text ++ stringText cs, pre.length + (stringTail cs).length) := by
  fun_induction stringTail cs generalizing pre text with
  | case1 => exact along_done (by simp [stringTurn, stringText])
  | case2 cs => exact along_done (by simp [stringTurn, stringText])
  | case3 c cs ih =>
    have hc : charAt (pre ++ '\\' :: c :: cs) (pre.length + 1) = pure c := by
      simpa using charAt_append (pre ++ ['\\']) c cs
    refine along_past ['\\', c] (by simp) ?_
      ((ih (pre ++ ['\\', c]) (text ++ [unescape c])).trans ?_)
    · simp [stringTurn, hc]
    · simp [stringText, Nat.add_assoc, Nat.add_comm 2]
  | case4 c cs hq hb ih =>
    have hlast : ¬(c = '\\' ∧ pre.length + 1 < (pre ++ c :: cs).length) := by
      rintro ⟨rfl, hlt⟩
      cases cs with
      | nil => simp at hlt
      | cons d ds => exact hb d ds rfl rfl
    refine along_past [c] (by simp) ?_ ((ih (pre ++ [c]) (text ++ [c])).trans ?_)
    · change stringTurn (pre ++ c :: cs) (text, pre.length) = _
      simp only [stringTurn, charAt_append, pure_bind, if_neg hq, if_neg hlast]
      exact if_pos (by simp)
    · simp [stringText, Nat.add_assoc, Nat.add_comm 1]

lemma stringAt_append (pre : List Char) (c : Char) (cs : List Char) :
    stringAt (pre ++ c :: cs) pre.length =
      pure (stringText cs, pre.length + 1 + (stringTail cs).length) := by
  simpa [stringAt] using stringTurns_append (pre ++ [c]) cs []

lemma arrayTurns_append (pre cs : List Char) (depth : ℕ) :
    along (pre ++ cs) (arrayTurn (pre ++ cs)) (depth + 1 : ℤ) pre.length =
      pure (pre.length + (arrayTail depth cs).length) := by
  fun_induction arrayTail depth cs generalizing pre with
  | case1 => exact along_done (by simp [arrayTurn])
  | case2 d cs ih =>
    refine along_past ['['] (by simp) ?_ ((ih (pre ++ ['['])).trans ?_)
    · simp [arrayTurn]
    · simp [Nat.add_assoc, Nat.add_comm 1]
  | case3 cs =>
    have hturn : arrayTurn (pre ++ ']' :: cs) ((0 : ℕ) + 1, pre.length) =
        pure (.again (0, pre.length + 1)) := by
      simp [arrayTurn]
    exact along_past [']'] (by simp) hturn (along_done (by simp [arrayTurn]))
  | case4 cs d ih =>
    refine along_past [']'] (by simp) ?_ ((ih (pre ++ [']'])).trans ?_)
    · have hpos : (0 : ℤ) < (d + 1 : ℕ) + 1 := by omega
      change arrayTurn (pre ++ ']' :: cs) ((d + 1 : ℕ) + 1, pre.length) = _
      simp only [arrayTurn, charAt_append, pure_bind]
      rw [if_pos ⟨by simp, hpos⟩, if_neg (by decide), if_pos trivial]
      simp
    · simp [Nat.add_assoc, Nat.add_comm 1]
  | case5 d c cs ho hc ih =>
    refine along_past [c] (by simp) ?_ ((ih (pre ++ [c])).trans ?_)
    · change arrayTurn (pre ++ c :: cs) (d + 1, pre.length) = _
      simp only [arrayTurn, charAt_append, pure_bind]
      rw [if_pos ⟨by simp, by omega⟩, if_neg ho, if_neg hc]
      simp
    · simp [Nat.add_assoc, Nat.add_comm 1]

lemma arrayEnd_append (pre cs : List Char) :
    arrayEnd (pre ++ '[' :: cs) pre.length = pure (pre.length + 1 + (arrayTail 0 cs).length) := by
  simpa [arrayEnd] using arrayTurns_append (pre ++ ['[']) cs 0

lemma numberTurns_pointed (pre cs : List Char) :
    along (pre ++ cs) (numberTurn (pre ++ cs)) true pre.length =
      pure (pre.length + (digitRun cs).length) := by
  induction cs generalizing pre with
  | nil => exact along_done (by simp [numberTurn, digitRun])
  | cons c cs ih =>
    cases hc : c.isDigit with
    | false => exact along_done (by simp [numberTurn, digitRun, hc])
    | true =>
      refine along_past [c] (by simp) (by simp [numberTurn, hc]) ((ih (pre ++ [c])).trans ?_)
      simp [digitRun, hc, Nat.add_assoc, Nat.add_comm 1]

lemma numberTail_cons_of_isDigit {c : Char} (h : c.isDigit = true) (cs : List Char) :
    numberTail (c :: cs) = c :: numberTail cs := by
  rw [numberTail, numberTail, List.dropWhile_cons_of_pos h]
  split <;> simp [digitRun, h]

lemma numberTurns_append (pre cs : List Char) :
    along (pre ++ cs) (numberTurn (pre ++ cs)) false pre.length =
      pure (pre.length + (numberTail cs).length) := by
  induction cs generalizing pre with
  | nil => exact along_done (by simp [numberTurn, numberTail, digitRun])
  | cons c cs ih =>
    cases hc : c.isDigit with
    | true =>
      rw [numberTail_cons_of_isDigit hc]
      refine along_past [c] (by simp) (by simp [numberTurn, hc]) ((ih (pre ++ [c])).trans ?_)
      simp [Nat.add_assoc, Nat.add_comm 1]
    | false =>
      by_cases hp : c = '.'
      · subst hp
        refine along_past ['.'] (by simp) (by simp [numberTurn])
          ((numberTurns_pointed (pre ++ ['.']) cs).trans ?_)
        simp [numberTail, digitRun, Nat.add_assoc, Nat.add_comm 1]
      · have htail : numberTail (c :: cs) = [] := by
          rw [numberTail, List.dropWhile_cons_of_neg (by simp [hc]), digitRun,
            List.takeWhile_cons_of_neg (by simp [hc])]
          split
          · next h => exact absurd (List.cons.inj h).1 hp
          · rfl
        rw [htail]
        exact along_done (by simp [numberTurn, hc, hp])

lemma numberEnd_append (pre cs : List Char) {c : Char} (hc : c.isDigit = true ∨ c = '-') :
    numberEnd (pre ++ c :: cs) pre.length = pure (pre.length + 1 + (numberTail cs).length) := by
  rw [numberEnd, charAt_append, pure_bind]
  by_cases hm : c = '-'
  · simpa [hm] using numberTurns_append (pre ++ [c]) cs
  · have hd : c.isDigit = true := hc.resolve_right hm
    rw [if_neg hm, numberTurns_append, numberTail_cons_of_isDigit hd, List.length_cons]
    simp [Nat.add_assoc, Nat.add_comm 1]

lemma slice_lexeme (pre : List Char) (c : Char) {tail cs : List Char} (h : tail <+: cs) :
    slice (pre ++ c :: cs) pre.length (pre.length + 1 + tail.length) = String.ofList (c :: tail) := by
  obtain ⟨rest, rfl⟩ := h
  simpa [Nat.add_assoc, Nat.add_comm 1] using slice_append pre (c :: tail) rest

lemma any_head? (cs : List Char) : cs.head?.any Char.isDigit = startsWithDigit cs := by
  cases cs <;> rfl

def lexeme (line : ℤ) (column : ℕ) (c : Char) (cs : List Char) : Option Token :=
  (reach c cs).1.map fun kind => ⟨kind, kind.textOf c (reach c cs).2, line, column⟩

lemma lexemeAt_append (line : ℤ) (pre : List Char) (c : Char) (cs : List Char) :
    lexemeAt line (pre ++ c :: cs) pre.length =
      pure (lexeme line pre.length c cs, pre.length + 1 + (reach c cs).2.length) := by
  have hslice := slice_lexeme pre c (prefix_reach c cs)
  have hrun (p : Char → Bool) : runEnd p (pre ++ c :: cs) (pre.length + 1) =
      pure (pre.length + 1 + (cs.takeWhile p).length) := by
    simpa using runEnd_append p (pre ++ [c]) cs
  rw [lexemeAt, charAt_append, pure_bind, behind?_append, pure_bind, any_head?]
  by_cases hb : Text.isBlank c = true
  · simp [lexeme, reach, hb]
  by_cases hq : c = '"'
  · have hr : reach c cs = (some .string, stringTail cs) := by rw [reach, if_neg hb, if_pos hq]
    rw [lexeme, hr, if_neg hb, if_pos hq, hq, stringAt_append, pure_bind]
    simp only [Option.map_some, TokenKind.textOf, stringText_stringTail]
  by_cases ht : c = '#' ∧ startsWithDigit cs = true
  · have hr : reach c cs = (some .targetId, digitRun cs) := by
      rw [reach, if_neg hb, if_neg hq, if_pos (by simpa using ht)]
    have hs : slice (pre ++ c :: cs) (pre.length + 1) (pre.length + 1 + (digitRun cs).length) =
        String.ofList (digitRun cs) := by
      obtain ⟨rest, hrest⟩ := prefix_digitRun cs
      simpa [hrest] using slice_append (pre ++ [c]) (digitRun cs) rest
    rw [lexeme, hr, if_neg hb, if_neg hq, if_pos ht, hrun, pure_bind]
    simp only [Option.map_some, TokenKind.textOf, ← hs]
    rfl
  by_cases ha : c = '['
  · have hr : reach c cs = (some .array, arrayTail 0 cs) := by
      rw [reach, if_neg hb, if_neg hq, if_neg (by simpa using ht), if_pos ha]
    rw [hr] at hslice
    rw [lexeme, hr, if_neg hb, if_neg hq, if_neg ht, if_pos ha]
    subst ha
    rw [arrayEnd_append, pure_bind, hslice]
    rfl
  by_cases ho : c = '{'
  · have hr : reach c cs = (some .braceOpen, []) := by
      rw [reach, if_neg hb, if_neg hq, if_neg (by simpa using ht), if_neg ha, if_pos ho]
    rw [lexeme, hr, if_neg hb, if_neg hq, if_neg ht, if_neg ha, if_pos ho]
    rfl
  by_cases hc : c = '}'
  · have hr : reach c cs = (some .braceClose, []) := by
      rw [reach, if_neg hb, if_neg hq, if_neg (by simpa using ht), if_neg ha, if_neg ho, if_pos hc]
    rw [lexeme, hr, if_neg hb, if_neg hq, if_neg ht, if_neg ha, if_neg ho, if_pos hc]
    rfl
  by_cases hn : c.isDigit = true ∨ (c = '-' ∧ startsWithDigit cs = true)
  · have hr : reach c cs = (some .number, numberTail cs) := by
      rw [reach, if_neg hb, if_neg hq, if_neg (by simpa using ht), if_neg ha, if_neg ho, if_neg hc,
        if_pos (by simpa using hn)]
    rw [hr] at hslice
    rw [lexeme, hr, if_neg hb, if_neg hq, if_neg ht, if_neg ha, if_neg ho, if_neg hc, if_pos hn,
      numberEnd_append pre cs (hn.imp_right And.left), pure_bind, hslice]
    rfl
  by_cases hl : Text.isLetter c = true ∨ c = '_'
  · have hr : reach c cs = (some .keyword, wordTail cs) := by
      rw [reach, if_neg hb, if_neg hq, if_neg (by simpa using ht), if_neg ha, if_neg ho, if_neg hc,
        if_neg (by simpa using hn), if_pos (by simpa using hl)]
    have hw : isWordChar c = true := by
      rcases hl with hl | hl <;> simp [isWordChar, hl]
    rw [hr] at hslice
    rw [lexeme, hr, if_neg hb, if_neg hq, if_neg ht, if_neg ha, if_neg ho, if_neg hc, if_neg hn,
      if_pos hl, runEnd_append, pure_bind, List.takeWhile_cons_of_pos hw, List.length_cons,
      Nat.add_comm _ 1, ← Nat.add_assoc]
    simp only [Option.map_some, TokenKind.textOf, ← hslice]
    rfl
  · have hr : reach c cs = (none, []) := by
      rw [reach, if_neg hb, if_neg hq, if_neg (by simpa using ht), if_neg ha, if_neg ho, if_neg hc,
        if_neg (by simpa using hn), if_neg (by simpa using hl)]
    rw [lexeme, hr, if_neg hb, if_neg hq, if_neg ht, if_neg ha, if_neg ho, if_neg hc, if_neg hn,
      if_neg hl]
    rfl

lemma ofChars_lexeme {c : Char} {tail rest : List Char} (h : (reach c (tail ++ rest)).2 = tail)
    (line : ℤ) (column : ℕ) : Token.ofChars line column (c :: (tail ++ rest)) =
      (lexeme line column c (tail ++ rest)).toList ++
        Token.ofChars line (column + (c :: tail).length) rest := by
  rw [Token.ofChars_reach h, lexeme, h]

lemma lineTurns_append (line : ℤ) (pre cs : List Char) (ts : List Token) :
    along (pre ++ cs) (lineTurn line (pre ++ cs)) ts pre.length =
      pure (ts ++ Token.ofChars line pre.length cs) := by
  induction pre, cs using reach_induction generalizing ts with
  | nil pre => exact along_done (by simp [lineTurn, Token.ofChars_nil])
  | cons pre c tail rest htail ih =>
    refine along_past (c :: tail) (by simp) ?_
      ((ih (ts ++ (lexeme line pre.length c (tail ++ rest)).toList)).trans ?_)
    · rw [List.cons_append, lineTurn, lexemeAt_append, pure_bind, htail, List.length_cons,
        Nat.add_assoc, Nat.add_comm 1]
      exact if_pos (by simp)
    · rw [ofChars_lexeme htail, List.length_append, List.append_assoc]

lemma lineTokens_eq (line : ℤ) (s : String) : lineTokens line s = pure (Token.ofLine line s) := by
  unfold lineTokens Token.ofLine
  split
  · rfl
  · simpa using lineTurns_append line [] s.toList []

lemma foldl_lines (ss : List String) (ts : List Token) (line : ℤ) :
    ss.foldl (fun (ts, line) s => (ts ++ Token.ofLine line s, line + 1)) (ts, line) =
      (ts ++ Token.ofLinesFrom line ss, line + ss.length) := by
  induction ss generalizing ts line with
  | nil => simp [Token.ofLinesFrom]
  | cons s ss ih =>
    rw [List.foldl_cons, ih, Token.ofLinesFrom, List.append_assoc, List.length_cons, Int.natCast_add,
      Int.add_assoc, Int.add_comm 1]
    rfl

lemma tokens_eq (ss : List String) : tokens ss = pure (Token.ofLines ss) := by
  have hturn (f : List Token × ℤ) (s : String) :
      linesTurn f s = pure (f.1 ++ Token.ofLine f.2 s, f.2 + 1) := by
    rw [linesTurn, lineTokens_eq, pure_bind]
  rw [tokens, foldlM_eq hturn, pure_bind, foldl_lines ss [] 1]
  rfl

end ScenarioScript.Walk
