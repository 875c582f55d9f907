import ScenarioScript.Proofs.Lexeme.Form
import ScenarioScript.Proofs.Lexeme.Spelled

namespace ScenarioScript

namespace Lexeme

variable {c : Char} {cs tail rest : List Char} {kind : TokenKind}

lemma isDigit_of_mem_digitRun (cs : List Char) : ∀ d ∈ digitRun cs, d.isDigit = true :=
  fun _ hd => List.mem_takeWhile_imp hd

lemma isWordChar_of_mem_wordTail (cs : List Char) : ∀ d ∈ wordTail cs, isWordChar d = true :=
  fun _ hd => List.mem_takeWhile_imp hd

lemma numberTail_point {digits further : List Char} (hdigits : ∀ d ∈ digits, d.isDigit = true)
    (hfurther : ∀ d ∈ further, d.isDigit = true) (hr : Ends rest) :
    numberTail (digits ++ '.' :: (further ++ rest)) = digits ++ '.' :: further := by
  have hdrop : (digits ++ '.' :: (further ++ rest)).dropWhile Char.isDigit =
      '.' :: (further ++ rest) := by
    rw [List.dropWhile_append_of_pos hdigits]
    rfl
  have hrun : digitRun (digits ++ '.' :: (further ++ rest)) = digits := by
    rw [digitRun, List.takeWhile_append_of_pos hdigits]
    exact List.append_nil digits
  simp only [numberTail, hdrop, hrun, digitRun_ends hfurther hr]

lemma numberTail_again (cs : List Char) (hr : Ends rest) :
    numberTail (numberTail cs ++ rest) = numberTail cs := by
  have hdigits := isDigit_of_mem_digitRun cs
  obtain ⟨behind, hbehind⟩ := prefix_numberTail cs
  obtain ⟨fraction, htail, hfraction, -⟩ := numberTail_eq hbehind
  rw [htail]
  rcases hfraction with rfl | ⟨further, rfl, hfurther⟩
  · rw [List.append_nil, numberTail_ends hdigits hr]
  · rw [List.append_assoc, List.cons_append, numberTail_point hdigits hfurther hr]

lemma arrayTail_again (depth : ℕ) (cs : List Char) :
    (∀ rest, arrayTail depth (arrayTail depth cs ++ rest) = arrayTail depth cs) ∨
      arrayTail depth cs = cs := by
  fun_induction arrayTail depth cs with
  | case1 => exact .inr rfl
  | case2 depth cs ih | case4 cs depth ih =>
    refine ih.imp (fun hclosed rest => ?_) (congrArg _)
    rw [List.cons_append, arrayTail, hclosed]
  | case3 cs => exact .inl fun rest => rfl
  | case5 depth c cs ho hc ih =>
    refine ih.imp (fun hclosed rest => ?_) (congrArg _)
    rw [List.cons_append, arrayTail, hclosed]
    · exact ho
    · exact hc

lemma startsWithDigit_digitRun (h : startsWithDigit cs = true) (rest : List Char) :
    startsWithDigit (digitRun cs ++ rest) = true := by
  cases cs with
  | nil => simp [startsWithDigit] at h
  | cons d ds =>
    have hd : d.isDigit = true := h
    simp [digitRun, hd, startsWithDigit]

lemma startsWithDigit_numberTail (h : startsWithDigit cs = true) (rest : List Char) :
    startsWithDigit (numberTail cs ++ rest) = true := by
  obtain ⟨behind, hbehind⟩ := prefix_numberTail cs
  obtain ⟨fraction, htail, -⟩ := numberTail_eq hbehind
  rw [htail, List.append_assoc]
  exact startsWithDigit_digitRun h _

end Lexeme

namespace Token

def word (t : Token) : Word where
  kind := t.kind
  text := t.text
  chars := match t.kind with
    | .string => '"' :: (Lexeme.escaped t.text.toList ++ ['"'])
    | .targetId => '#' :: t.text.toList
    | _ => t.text.toList

def written (ts : List Token) : String :=
  String.ofList (Word.line 0 (ts.map word))

def face (t : Token) : TokenKind × String :=
  (t.kind, t.text)

end Token

namespace Lexeme

open Token

lemma Reaches.stands {c : Char} {cs tail : List Char} {kind : TokenKind}
    (h : Reaches c cs kind tail) (line : ℤ) (column : ℕ) :
    (word ⟨kind, kind.textOf c tail, line, column⟩).Stands ∨
      tail = cs ∧ (word ⟨kind, kind.textOf c tail, line, column⟩).StandsLast := by
  cases h with
  | string => exact .inl (Word.quoted_stands _)
  | targetId hdigit =>
    refine .inl ⟨'#', digitRun cs, congrArg _ String.toList_ofList, rfl, fun rest hr => ?_⟩
    rw [reach_target (startsWithDigit_digitRun hdigit rest),
      digitRun_ends (isDigit_of_mem_digitRun cs) hr]
    rfl
  | array =>
    rcases arrayTail_again 0 cs with hclosed | hopen
    · refine .inl ⟨'[', arrayTail 0 cs, String.toList_ofList, rfl, fun rest _ => ?_⟩
      rw [reach_array, hclosed]
      rfl
    · refine .inr ⟨hopen, '[', arrayTail 0 cs, String.toList_ofList, rfl, ?_⟩
      rw [reach_array, hopen, hopen]
      rfl
  | braceOpen =>
    refine .inl ⟨'{', [], ?_, rfl, fun rest _ => reach_open rest⟩
    simp [word, TokenKind.textOf]
  | braceClose =>
    refine .inl ⟨'}', [], ?_, rfl, fun rest _ => reach_close rest⟩
    simp [word, TokenKind.textOf]
  | number hc =>
    refine .inl ⟨c, numberTail cs, String.toList_ofList, rfl, fun rest hr => ?_⟩
    have hagain := numberTail_again cs hr
    rcases hc with hdigit | ⟨rfl, hdigit⟩
    · rw [reach_digit hdigit, hagain]
      rfl
    · rw [reach_minus (startsWithDigit_numberTail hdigit rest), hagain]
      rfl
  | keyword hc =>
    refine .inl ⟨c, wordTail cs, String.toList_ofList, rfl, fun rest hr => ?_⟩
    rw [reach_letter (by simpa using hc), wordTail_ends (isWordChar_of_mem_wordTail cs) hr]
    rfl

end Lexeme

namespace Token

open Lexeme

lemma aligned_ofChars (line : ℤ) (pre cs : List Char) :
    Word.Aligned ((ofChars line pre.length cs).map word) := by
  induction pre, cs using reach_induction with
  | nil pre =>
    rw [ofChars_nil]
    exact .nil
  | cons pre c tail rest htail ih =>
    rw [ofChars_reach htail, ← List.length_append]
    cases hk : (reach c (tail ++ rest)).1 with
    | none => exact ih
    | some kind =>
      rcases (reaches_of_reach (Prod.ext hk htail)).stands line pre.length with hstands | ⟨hend, hlast⟩
      · exact .cons hstands ih
      · obtain rfl : rest = [] := List.self_eq_append_right.mp hend
        rw [ofChars_nil]
        exact .last hlast

lemma aligned_ofLine (line : ℤ) (s : String) : Word.Aligned ((ofLine line s).map word) := by
  rw [ofLine]
  split
  · exact .nil
  · exact aligned_ofChars line [] s.toList

lemma map_face_place (line : ℤ) (column : ℕ) (ws : List Word) :
    (Word.place line column ws).map face = ws.map fun w => (w.kind, w.text) := by
  induction ws generalizing column with
  | nil => rfl
  | cons w ws ih => rw [Word.place, List.map_cons, ih, List.map_cons, face]

lemma map_face_written {ts : List Token} (h : Word.Aligned (ts.map word))
    (hfirst : ∀ t ∈ ts.head?, t.kind ≠ .targetId) (line : ℤ) :
    (ofLine line (written ts)).map face = ts.map face := by
  cases ts with
  | nil => rfl
  | cons t ts =>
    have hkind : t.word.kind ≠ .targetId := hfirst t rfl
    have hplace := Word.ofLine_line h hkind line 0
    rw [written, List.map_cons, hplace, map_face_place, ← List.map_cons, List.map_map]
    rfl

end Token

namespace Walk

open Token

lemma ofLine_of_lineTokens {n : ℤ} {s : String} {c d : Cursor} {ts : List Token}
    (h : (lineTokens n s).on c = (.ok ts, d)) : ofLine n s = ts := by
  rw [lineTokens_eq, on_pure] at h
  exact Except.ok.inj (congrArg Prod.fst h)

/-- Unless a target id is first, which would make a comment of it, the line that the tokens of a line
make has the same tokens. -/
theorem tokens_written_back (n m : ℤ) (s : String) (c : Cursor) :
    ∃ ts, (lineTokens n s).on c = (.ok ts, c) ∧
      ((∀ t ∈ ts.head?, t.kind ≠ .targetId) →
        ∃ us, (lineTokens m (written ts)).on c = (.ok us, c) ∧ us.map face = ts.map face) := by
  refine ⟨ofLine n s, by rw [lineTokens_eq, on_pure], fun hfirst => ?_⟩
  refine ⟨ofLine m (written (ofLine n s)), by rw [lineTokens_eq, on_pure], ?_⟩
  exact map_face_written (aligned_ofLine n s) hfirst m

theorem tokens_written_back_unclosed :
    ∃ ts, (lineTokens 4 "@ größe\t1.\"[ // \\\" \\n\"5-3x#7 \x7b[a [b]").on (.ofTokens []) =
        (.ok ts, .ofTokens []) ∧
      written ts = "größe 1. \"[ // \\\" \\n\" 5 -3 x #7 \x7b [a [b]" ∧
      ∃ us, (lineTokens 1 (written ts)).on (.ofTokens []) = (.ok us, .ofTokens []) ∧
        us.map face = ts.map face := by
  obtain ⟨ts, hread, hback⟩ := tokens_written_back 4 1 _ (.ofTokens [])
  obtain rfl := ofLine_of_lineTokens hread
  exact ⟨_, hread, by decide +kernel, hback (by decide +kernel)⟩

end Walk

end ScenarioScript
