import ScenarioScript.Document.Display
import ScenarioScript.Scenario
import ScenarioScript.Text.Lines

/-! Findings: what is wrong with a scenario that its grammar cannot tell. Errors make a scenario
invalid, warnings do not. -/

namespace ScenarioScript

inductive Severity
  | error | warning
  deriving DecidableEq, Repr

inductive Flaw
  | blankName
  | noStartUrl
  | noSteps
  | stepTimeout (ms : Document)
  | retries (count : Document)
  | waitTimeout (ms : Document)
  | waitDuration (ms : Document)
  | scrollAmount (amount : Document)
  | noUrl
  | selectIndex (index : Document)
  | noOption
  | noText
  | noScreenshotName
  deriving Repr, BEq

namespace Flaw

def severity : Flaw → Severity
  | noStartUrl | noSteps | noOption | noText | noScreenshotName => .warning
  | _ => .error

def field : Flaw → String
  | blankName => "name"
  | noStartUrl => "start_url"
  | noSteps => "steps"
  | stepTimeout _ => ".timeout_ms"
  | retries _ => ".retry_count"
  | waitTimeout _ => ".action.timeout_ms"
  | waitDuration _ => ".action.condition.ms"
  | scrollAmount _ => ".action.amount"
  | noUrl => ".action.url"
  | selectIndex _ => ".action.index"
  | noOption => ".action"
  | noText => ".action.text"
  | noScreenshotName => ".action.name"

def message : Flaw → String
  | blankName => "'name' is required and must not be empty."
  | noStartUrl => "No start url set. The executor will start from its current page."
  | noSteps => "No steps defined."
  | stepTimeout ms => "Step timeout must be positive, got " ++ ms.shown ++ "."
  | retries count => "Retry count must not be negative, got " ++ count.shown ++ "."
  | waitTimeout ms => "'wait' timeout must be positive, got " ++ ms.shown ++ "."
  | waitDuration ms => "'wait' duration must be positive, got " ++ ms.shown ++ "."
  | scrollAmount amount => "'scroll' amount must be positive, got " ++ amount.shown ++ "."
  | noUrl => "'navigate' step requires a non-empty url."
  | selectIndex index => "'select' index must not be negative, got " ++ index.shown ++ "."
  | noOption => "'select' step has no value, label or index."
  | noText => "'type' step has empty text."
  | noScreenshotName => "'screenshot' step has no name."

def subject? : Flaw → Option Document
  | stepTimeout d | retries d | waitTimeout d | waitDuration d | scrollAmount d | selectIndex d =>
    some d
  | _ => none

end Flaw

structure Finding where
  step : Option Nat
  flaw : Flaw
  deriving Repr, BEq

def Finding.path (f : Finding) : String :=
  match f.step with
  | none => f.flaw.field
  | some i => "steps[" ++ Decimal.text i ++ "]" ++ f.flaw.field

def Finding.severity (f : Finding) : Severity :=
  f.flaw.severity

def WaitCondition.flaws : WaitCondition → List Flaw
  | duration ms => if ms ≤ 0 then [.waitDuration (.int ms)] else []
  | _ => []

def Action.flaws : Action → List Flaw
  | wait condition timeout =>
    (if timeout ≤ 0 then [.waitTimeout (.int timeout)] else []) ++ condition.flaws
  | scroll _ amount _ => if amount ≤ 0 then [.scrollAmount (.int amount)] else []
  | navigate url => if url.isEmpty then [.noUrl] else []
  | select _ value label index =>
    match index with
    | some i => if i < 0 then [.selectIndex (.int i)] else []
    | none => if value.isNone && label.isNone then [.noOption] else []
  | type _ text _ _ => if text.isEmpty then [.noText] else []
  | screenshot name _ => if name.isEmpty then [.noScreenshotName] else []
  | _ => []

def Step.flaws (s : Step) : List Flaw :=
  (match s.timeout with
    | some ms => if ms ≤ 0 then [.stepTimeout (.int ms)] else []
    | none => []) ++
  (if s.retries < 0 then [.retries (.int s.retries)] else []) ++ s.action.flaws

def Step.findings (i : Nat) : List Step → List Finding
  | [] => []
  | s :: ss => s.flaws.map (⟨some i, ·⟩) ++ findings (i + 1) ss

def Scenario.findings (s : Scenario) : List Finding :=
  (if Text.trim s.name.toList = [] then [⟨none, .blankName⟩] else []) ++
  (if s.startUrl.isEmpty then [⟨none, .noStartUrl⟩] else []) ++
  Step.findings 0 s.steps ++
  (if s.steps.isEmpty then [⟨none, .noSteps⟩] else [])

structure Verdict where
  errors : List Finding
  warnings : List Finding
  deriving Repr, BEq

namespace Verdict

def ofFindings (fs : List Finding) : Verdict :=
  ⟨fs.filter (·.severity = .error), fs.filter (·.severity = .warning)⟩

def valid (v : Verdict) : Bool :=
  v.errors.isEmpty

def findings (v : Verdict) : List Finding :=
  v.errors ++ v.warnings

def isWritable (v : Verdict) : Bool :=
  v.findings.all (·.flaw.subject?.all Document.isWritable)

def summary (v : Verdict) : String :=
  if v.valid then
    if v.warnings.isEmpty then "Valid"
    else "Valid (" ++ Decimal.text v.warnings.length ++ " warnings)"
  else
    "Invalid: " ++ Decimal.text v.errors.length ++ " errors, " ++
      Decimal.text v.warnings.length ++ " warnings"

end Verdict

def Scenario.verdict (s : Scenario) : Verdict :=
  .ofFindings s.findings

end ScenarioScript
