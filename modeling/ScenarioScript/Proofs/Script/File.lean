import ScenarioScript.Proofs.Text.Lines
import ScenarioScript.Proofs.Utf8
import ScenarioScript.Proofs.Walk.Script
import ScenarioScript.Script.File

namespace ScenarioScript

lemma Token.ofText_unifyBreaks (s : String) :
    ofText (String.ofList (Text.unifyBreaks s.toList)) = ofText s := by
  rw [ofText, Text.lines, String.toList_ofList, Text.linesOf_unifyBreaks]
  rfl

namespace Script

lemma read_unifyBreaks (settings : Settings) (s : String) :
    read settings (String.ofList (Text.unifyBreaks s.toList)) = read settings s := by
  rw [read_eq, read_eq, Token.ofText_unifyBreaks]

/-- The file of a text is read as the text is, however its lines end: the carriage returns that
loading replaces end the same lines as before. -/
theorem load_eq_read {w : Workspace} {path : Path} {text : String} (settings : Settings)
    (hfile : w.lookup path = some (.file text.toUTF8.toList))
    (hsuffix : path.suffix ∈ [".e2e", ".dsl"])
    (hblank : ∃ c ∈ text.toList, Text.isBlank c = false) :
    load w settings path = .ok (read settings text) := by
  have hs : Failure.scriptSuffixes.contains path.suffix = true := List.contains_iff_mem.mpr hsuffix
  have htrim : Text.trim (Text.unifyBreaks text.toList) ≠ [] := by
    rw [Ne, Text.trim_unifyBreaks, Text.trim_eq_nil_iff]
    obtain ⟨c, hc, hb⟩ := hblank
    exact fun h => by simp [h c hc] at hb
  have htext : fileText w path = .ok (String.ofList (Text.unifyBreaks text.toList)) := by
    simp only [fileText, hfile, hs, Utf8.chars_toUTF8, htrim]
    rfl
  rw [load, htext, ← read_unifyBreaks settings text]
  rfl

def mixed : String :=
  "scenario \"S\" \x7b\r\r\nstep \"é\"\u2028\x7b\n\rhover #1\r\n\r \x7d\u0085\x7d\r"

theorem load_eq_read_mixed :
    load ⟨[(["a.b.e2e"], .file mixed.toUTF8.toList)], []⟩ {} (.ofText "./a.b.e2e") =
      .ok (read {} mixed) := by
  refine load_eq_read {} ?_ ?_ ⟨'s', ?_, rfl⟩
  · rfl
  · decide +kernel
  · decide +kernel

end Script

end ScenarioScript
