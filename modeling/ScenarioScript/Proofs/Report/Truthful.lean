import ScenarioScript.Proofs.Command.Run
import ScenarioScript.Proofs.Document.Field

/-! Reports and envelopes do not contradict the reading that they are made from: a reading without
faults has a scenario, so whatever failed has an error to be announced. -/

namespace ScenarioScript

open Document

namespace Script

lemma success_readSource (settings : Settings) (source : Source) :
    (readSource settings source).success = (readSource settings source).faults.isEmpty := by
  cases source with
  | other value => rfl
  | text s =>
    change (read settings s).success = (read settings s).faults.isEmpty
    cases hfaults : (read settings s).faults with
    | nil => exact success_of_faults_eq_nil hfaults
    | cons f fs => simp [Reading.success, hfaults]

end Script

def Reading.Passes (r : Reading) (verdict : Option Verdict) : Prop :=
  r.faults = [] ∧ ∀ v ∈ verdict, v.errors = []

def Document.lengthAt (path : List String) (d : Document) : Nat :=
  ((d.at? path).map fun e => e.listed.length).getD 0

inductive Reading.Announces (r : Reading) (verdict : Option Verdict) : String → Prop
  | passed {s : Scenario} (h : r.Passes verdict) (hs : r.scenario = some s) :
    Announces r verdict ("Parsed '" ++ s.name ++ "' with " ++ Decimal.text s.steps.length ++ " steps")
  | faults {f : Fault} {fs : List Fault} (h : r.faults = f :: fs) :
    Announces r verdict (Decimal.text r.faults.length ++ " parse errors (first at line " ++
      Decimal.text f.line ++ ": " ++ f.cause.message ++ ")")
  | errors {v : Verdict} (h : r.faults = []) (hv : verdict = some v) (hne : 0 < v.errors.length) :
    Announces r verdict (Decimal.text v.errors.length ++ " validation errors")

structure Reading.Told (r : Reading) (verdict : Option Verdict) (report envelope : Document) :
    Prop where
  scenario : report.at? ["scenario"] = some (ofOption Scenario.document r.scenario)
  errors : report.at? ["errors"] = some (list (r.faults.map fun f => f.remark.document))
  warnings : report.at? ["warnings"] = some (texts (r.cautions.map Caution.message))
  validation : report.at? ["validation"] = some (ofOption Verdict.document verdict)
  counts : ∀ p ∈ [("steps", ["scenario", "steps"]), ("errors", ["errors"]),
      ("warnings", ["warnings"]), ("validation_errors", ["validation", "errors"]),
      ("validation_warnings", ["validation", "warnings"])],
    report.at? ["summary", p.1] = some (int (report.lengthAt p.2))
  status : report.textAt? "status" = some "passed" ∧ r.Passes verdict ∨
    report.textAt? "status" = some "failed" ∧ ¬ r.Passes verdict
  data : ∀ k ∈ ["source", "scenario", "errors", "warnings", "validation"],
    envelope.at? ["data", k] = report.at? [k]
  success : envelope.at? ["success"] = some (bool (report.textAt? "status" = some "passed"))
  message : ∃ m, envelope.textAt? "message" = some m ∧ r.Announces verdict m

namespace Report

variable {r : Reading} {verdict : Option Verdict} {label : String}

lemma passed_iff (h : r.success = r.faults.isEmpty) :
    passed ⟨label, r.outcome, verdict⟩ = true ↔ r.Passes verdict := by
  have hverdict : verdict.all Verdict.valid = true ↔ ∀ v ∈ verdict, v.errors = [] := by
    cases verdict <;> simp [Verdict.valid]
  rw [passed, Bool.and_eq_true, hverdict, Reading.Passes]
  change r.success = true ∧ _ ↔ _
  rw [h, List.isEmpty_iff]

lemma announces_message (h : r.success = r.faults.isEmpty) :
    r.Announces verdict (message ⟨label, r.outcome, verdict⟩) := by
  rw [message]
  split
  · next hpassed =>
    have hpasses := (passed_iff h).mp hpassed
    rw [Reading.success, hpasses.1, List.isEmpty_nil, Bool.and_true] at h
    obtain ⟨s, hs⟩ := Option.isSome_iff_exists.mp h
    simp only [name, steps, Reading.outcome, hs]
    exact .passed hpasses hs
  · next hfailed =>
    have hfail := mt (passed_iff h).mpr hfailed
    cases hfaults : r.faults with
    | cons f fs =>
      have hlength : (f.remark :: fs.map Fault.remark).length = r.faults.length := by simp [hfaults]
      simp only [Reading.outcome, hfaults, List.map_cons]
      rw [hlength]
      exact .faults hfaults
    | nil =>
      cases verdict with
      | none => exact absurd ⟨hfaults, by simp⟩ hfail
      | some v =>
        have hne : v.errors ≠ [] := fun hnil => hfail ⟨hfaults, by simpa using hnil⟩
        simp only [Reading.outcome, hfaults, List.map_nil]
        exact .errors hfaults rfl (List.length_pos_iff.mpr hne)

lemma status_document (r : Report) :
    r.document.textAt? "status" = some (if r.passed then "passed" else "failed") :=
  rfl

lemma count_eq_lengthAt {α : Type} (f : α → Document) (as : List α) :
    some (int as.length) = some (int (list (as.map f)).listed.length) := by
  rw [listed, List.length_map]

lemma told_of_success (h : r.success = r.faults.isEmpty) (command : String) (path : Option String) :
    r.Told verdict (document ⟨label, r.outcome, verdict⟩)
      (envelope ⟨label, r.outcome, verdict⟩ command path) where
  scenario := by
    cases hs : r.scenario with
    | none => simp only [Reading.outcome, hs]; rfl
    | some s => simp only [Reading.outcome, hs]; rfl
  errors := by
    change some (list ((r.faults.map Fault.remark).map Remark.document)) = _
    rw [List.map_map]
    rfl
  warnings := rfl
  validation := rfl
  counts := by
    intro p hp
    simp only [List.mem_cons, List.not_mem_nil, or_false] at hp
    rcases hp with rfl | rfl | rfl | rfl | rfl
    · cases hs : r.scenario with
      | none => simp only [Reading.outcome, hs]; rfl
      | some s =>
        simp only [Reading.outcome, hs]
        exact count_eq_lengthAt Step.document s.steps
    · exact count_eq_lengthAt Remark.document _
    · exact count_eq_lengthAt Document.text _
    · cases verdict with
      | none => rfl
      | some v => exact count_eq_lengthAt Finding.document v.errors
    · cases verdict with
      | none => rfl
      | some v => exact count_eq_lengthAt Finding.document v.warnings
  status := by
    rw [status_document]
    by_cases hp : r.Passes verdict
    · exact .inl ⟨by rw [if_pos ((passed_iff h).mpr hp)], hp⟩
    · exact .inr ⟨by rw [if_neg (mt (passed_iff h).mp hp)], hp⟩
  data := by
    intro k hk
    simp only [List.mem_cons, List.not_mem_nil, or_false] at hk
    rcases hk with rfl | rfl | rfl | rfl | rfl <;> rfl
  success := by
    rw [status_document]
    cases hpassed : passed ⟨label, r.outcome, verdict⟩ <;> simp [envelope, at?, field?, hpassed]
  message := ⟨_, rfl, announces_message h⟩

/-- The report on a source and its envelope say how reading and checking it went. -/
theorem tells_reading (settings : Settings) (source : Script.Source) (check : Bool)
    (label command : String) (path : Option String) :
    let r := Script.readSource settings source
    let verdict := if check then r.scenario.map Scenario.verdict else none
    let report : Report := ⟨label, r.outcome, verdict⟩
    r.Told verdict report.document (report.envelope command path) :=
  told_of_success (Script.success_readSource settings source) command path

end Report
end ScenarioScript
