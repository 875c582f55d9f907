import ScenarioScript.Document.Model
import ScenarioScript.Finding
import ScenarioScript.Script

namespace ScenarioScript

structure Remark where
  line : Int
  column : Int
  message : String
  deriving DecidableEq, Repr

structure Subject where
  name : Document
  steps : Nat
  document : Document
  deriving Repr, BEq

def Scenario.subject (s : Scenario) : Subject :=
  ⟨.text s.name, s.steps.length, s.document⟩

structure Outcome where
  success : Bool
  scenario : Option Subject
  errors : List Remark
  warnings : List String
  deriving Repr, BEq

def Fault.remark (f : Fault) : Remark :=
  ⟨f.line, f.column, f.cause.message⟩

def Reading.outcome (r : Reading) : Outcome :=
  ⟨r.success, r.scenario.map Scenario.subject, r.faults.map Fault.remark, r.cautions.map Caution.message⟩

def Remark.located (r : Remark) : String :=
  Decimal.text r.line ++ ":" ++ Decimal.text r.column ++ ": " ++ r.message

structure Report where
  source : String
  outcome : Outcome
  verdict : Option Verdict

namespace Report

def passed (r : Report) : Bool :=
  r.outcome.success && r.verdict.all Verdict.valid

def name (r : Report) : Document :=
  Document.ofOption Subject.name r.outcome.scenario

def steps (r : Report) : Nat :=
  (r.outcome.scenario.map Subject.steps).getD 0

def message (r : Report) : String :=
  if r.passed then
    "Parsed '" ++ r.name.shown ++ "' with " ++ Decimal.text r.steps ++ " steps"
  else match r.outcome.errors with
    | first :: _ =>
      Decimal.text r.outcome.errors.length ++ " parse errors (first at line " ++
        Decimal.text first.line ++ ": " ++ first.message ++ ")"
    | [] =>
      Decimal.text (match r.verdict with
        | some v => v.errors.length
        | none => 0) ++ " validation errors"

end Report

open Document

def Remark.document (r : Remark) : Document :=
  record [("line", int r.line), ("column", int r.column), ("message", text r.message)]

def Severity.spelling : Severity → String
  | error => "error"
  | warning => "warning"

def Finding.document (f : Finding) : Document :=
  record [("path", text f.path), ("message", text f.flaw.message),
    ("severity", text f.severity.spelling)]

def Verdict.document (v : Verdict) : Document :=
  record [("valid", bool v.valid), ("errors", list (v.errors.map Finding.document)),
    ("warnings", list (v.warnings.map Finding.document))]

namespace Report

def timestamp : String := "1970-01-01T00:00:00+00:00"

def scenarioDocument (r : Report) : Document :=
  ofOption Subject.document r.outcome.scenario

def errorsDocument (r : Report) : Document :=
  list (r.outcome.errors.map Remark.document)

def verdictDocument (r : Report) : Document :=
  ofOption Verdict.document r.verdict

def summary (r : Report) : Document :=
  record [
    ("scenario", r.name),
    ("steps", int r.steps),
    ("errors", int r.outcome.errors.length),
    ("warnings", int r.outcome.warnings.length),
    ("validation_errors", int ((r.verdict.map (·.errors.length)).getD 0)),
    ("validation_warnings", int ((r.verdict.map (·.warnings.length)).getD 0))]

def document (r : Report) : Document :=
  record [
    ("timestamp", text timestamp),
    ("source", text r.source),
    ("status", text (if r.passed then "passed" else "failed")),
    ("summary", r.summary),
    ("scenario", r.scenarioDocument),
    ("errors", r.errorsDocument),
    ("warnings", texts r.outcome.warnings),
    ("validation", r.verdictDocument)]

def envelope (r : Report) (command : String) (reportPath : Option String) : Document :=
  let path := match reportPath with
    | some p => if p.isEmpty then [] else [("report_path", text p)]
    | none => []
  record [
    ("success", bool r.passed),
    ("command", text command),
    ("data", record ([
      ("source", text r.source),
      ("scenario", r.scenarioDocument),
      ("errors", r.errorsDocument),
      ("warnings", texts r.outcome.warnings),
      ("validation", r.verdictDocument)] ++ path)),
    ("message", text r.message)]

end Report

end ScenarioScript
