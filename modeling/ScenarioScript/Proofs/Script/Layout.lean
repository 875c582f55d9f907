import ScenarioScript.Proofs.Lexeme.Layout
import ScenarioScript.Proofs.Script.Relocated
import ScenarioScript.Proofs.Walk.Script

namespace ScenarioScript.Script

/-- A script that is laid out anew says the same. Its tokens are those of the old lines at their new
places, and faults and cautions go where their tokens go. -/
theorem layout_immaterial {ss us : List String} (h : Relaid ss us) :
    ∃ line width, Carries line width 1 1 ss us ∧
      ∀ (settings : Settings) {text text' : String},
        Text.lines text = ss → Text.lines text' = us →
        (read settings text').success = (read settings text).success ∧
        (read settings text').scenario = (read settings text).scenario ∧
        (read settings text').faults =
          (read settings text).faults.map (Fault.move (.indent line width)) ∧
        (read settings text').cautions =
          (read settings text).cautions.map (Caution.move (.indent line width)) := by
  obtain ⟨line, width, hc⟩ := h.carries 1 1
  -- The lines are mapped one to one, so a timeout stays in the line of its wait or out of it.
  refine ⟨line, width, hc, fun settings text text' htext htext' => ?_⟩
  have hmove : read settings text' =
      ⟨(read settings text).scenario,
        (read settings text).faults.map (Fault.move (.indent line width)),
        (read settings text).cautions.map (Caution.move (.indent line width))⟩ := by
    rw [read_eq, read_eq, Token.ofText, Token.ofText, htext, htext', Token.ofLines, Token.ofLines,
      hc.tokens]
    exact ofTokens_move hc.injective settings _
  rw [hmove]
  exact ⟨by simp [Reading.success], rfl, rfl, rfl⟩

def bare : String :=
  "scenario \"S\"\nstep \"a\" \x7b\nwait pageLoaded timeout 300\ntimeout 40\n\x7d"

def annotated : String :=
  "scenario \"S\"\n# One step.\n  step \"a\" \x7b\n\n\twait pageLoaded timeout 300\n" ++
    "    // of the step\n    timeout 40\n  \x7d"

lemma relaid_annotated : Relaid (Text.lines bare) (Text.lines annotated) := by
  have hbare : Text.lines bare =
      ["scenario \"S\"", "step \"a\" \x7b", "wait pageLoaded timeout 300", "timeout 40", "\x7d"] := by
    decide +kernel
  have hannotated : Text.lines annotated =
      ["" ++ "scenario \"S\"", "# One step.", "  " ++ "step \"a\" \x7b", "",
        "\t" ++ "wait pageLoaded timeout 300", "    // of the step", "    " ++ "timeout 40",
        "  " ++ "\x7d"] := by decide +kernel
  rw [hbare, hannotated]
  apply Relaid.indent _ _ (List.all_eq_true.mp (by decide))
  apply Relaid.insert _ (by decide +kernel)
  apply Relaid.indent _ _ (List.all_eq_true.mp (by decide))
  apply Relaid.insert _ (by decide +kernel)
  apply Relaid.indent _ _ (List.all_eq_true.mp (by decide))
  apply Relaid.insert _ (by decide +kernel)
  apply Relaid.indent _ _ (List.all_eq_true.mp (by decide))
  apply Relaid.indent _ _ (List.all_eq_true.mp (by decide))
  exact .nil

theorem layout_immaterial_annotated :
    Relaid (Text.lines bare) (Text.lines annotated) ∧
    (read {} bare).success = true ∧
    (read {} annotated).scenario = (read {} bare).scenario := by
  obtain ⟨line, width, -, h⟩ := layout_immaterial relaid_annotated
  obtain ⟨-, hscenario, -, -⟩ := h {} rfl rfl
  refine ⟨relaid_annotated, ?_, hscenario⟩
  rw [read_eq]
  decide +kernel

end ScenarioScript.Script
