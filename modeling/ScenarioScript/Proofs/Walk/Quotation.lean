import ScenarioScript.Proofs.Lexeme.Spelled
import ScenarioScript.Proofs.Walk.Lexeme

namespace ScenarioScript.Walk

open Lexeme

lemma stringAt_escaped (before text rest : List Char) :
    stringAt (before ++ '"' :: (escaped text ++ '"' :: rest)) before.length =
      pure (text, (before ++ '"' :: (escaped text ++ ['"'])).length) := by
  rw [stringAt_append, stringText_escaped, stringTail_escaped]
  simp [Nat.add_assoc, Nat.add_comm 1]

lemma stringAt_inside {line : List Char} {start : ℕ} (h : start < line.length) :
    ∃ text stop, stringAt line start = pure (text, stop) ∧ start < stop ∧ stop ≤ line.length := by
  obtain ⟨before, c, rest, rfl, rfl⟩ : ∃ before c rest, line = before ++ c :: rest ∧
      before.length = start :=
    ⟨line.take start, line.get ⟨start, h⟩, line.drop (start + 1), by simp, by simp [h.le]⟩
  have hend := (prefix_stringTail rest).length_le
  refine ⟨_, _, stringAt_append before c rest, by omega, ?_⟩
  rw [List.length_append, List.length_cons]
  omega

/-- A text in quotes is read back on every line, up to the index behind its closing quote; and from
every index of a line a string ends behind it and on the line, closed or not. -/
theorem quoted_read_anywhere (c : Cursor) :
    (∀ before text rest : List Char,
      (stringAt (before ++ '"' :: (escaped text ++ '"' :: rest)) before.length).on c =
        (.ok (text, (before ++ '"' :: (escaped text ++ ['"'])).length), c)) ∧
    ∀ (line : List Char) (start : ℕ), start < line.length → ∃ text stop,
      (stringAt line start).on c = (.ok (text, stop), c) ∧ start < stop ∧ stop ≤ line.length := by
  refine ⟨fun before text rest => ?_, fun line start hstart => ?_⟩
  · rw [stringAt_escaped, on_pure]
  · obtain ⟨text, stop, hread, hinside⟩ := stringAt_inside hstart
    exact ⟨text, stop, by rw [hread, on_pure], hinside⟩

theorem quoted_read_anywhere_unclosed :
    3 < "tag\"a\\\"b\\".toList.length ∧
    (stringAt "tag\"a\\\"b\\".toList 3).on (.ofTokens []) =
      (.ok ("a\"b\\".toList, 9), .ofTokens []) ∧
    3 < 9 ∧ 9 ≤ "tag\"a\\\"b\\".toList.length := by
  have hstart : 3 < "tag\"a\\\"b\\".toList.length := by decide
  have hend : stringAt "tag\"a\\\"b\\".toList 3 = pure ("a\"b\\".toList, 9) :=
    stringAt_append "tag".toList '"' "a\\\"b\\".toList
  obtain ⟨text, stop, hread, hinside⟩ := (quoted_read_anywhere (.ofTokens [])).2 _ 3 hstart
  rw [hend, on_pure] at hread
  obtain ⟨rfl, rfl⟩ := Prod.mk.inj (Except.ok.inj (congrArg Prod.fst hread))
  exact ⟨hstart, by rw [hend, on_pure], hinside⟩

end ScenarioScript.Walk
