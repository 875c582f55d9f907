import ScenarioScript.Command.Line
import ScenarioScript.Document.Json
import ScenarioScript.Document.Yaml
import ScenarioScript.Grammar
import ScenarioScript.Report
import ScenarioScript.Script.File
import ScenarioScript.Settings.Sources
import ScenarioScript.Text.Terminal

namespace ScenarioScript.Command

/-- Texts that cannot be decoded, or put out, count as bad values. -/
inductive Crash
  | directory | exists | notDirectory | missing
  | value | type | index | key | attribute | overflow
  deriving DecidableEq, Repr

structure Run where
  exitCode : Nat
  printed : String
  crash : Option Crash
  workspace : Workspace
  deriving DecidableEq, Repr

def Run.print (w : Workspace) (text : String) (exitCode : Nat) : Run :=
  ⟨exitCode, String.ofList (Text.withoutControls text.toList), none, w⟩

def Run.crashed (w : Workspace) (c : Crash) : Run :=
  ⟨1, "", some c, w⟩

def Crash.ofFailure (f : Failure) : Crash :=
  match f.kind with
  | .directory => .directory
  | .index => .index
  | .key => .key
  | .attribute => .attribute
  | .overflow => .overflow
  | .type => .type
  | .notFound => .missing
  | .value | .decoding => .value

def Crash.ofObstacle : Obstacle → Crash
  | .isDirectory => .directory
  | .exists => .exists
  | .notDirectory => .notDirectory
  | .missing => .missing

def failureText (command message : String) (data : Option (String × Path)) : String :=
  Document.json (.record [
    ("success", .bool false),
    ("command", .text command),
    ("data", Document.ofOption (fun d => .record [(d.1, .text d.2.text)]) data),
    ("message", .text message)]) false

def fail (w : Workspace) (command lead : String) (data : Option (String × Path)) (f : Failure) :
    Run :=
  if f.isTold then .print w (failureText command (lead ++ f.message) data ++ "\n") 1
  else .crashed w (.ofFailure f)

/-- Names that the log knows, but not as levels. -/
def badLevel? (level : String) : Option Crash :=
  let name := Text.capitals level
  if name = "BASIC_FORMAT" then some .value
  else if name = "_STYLES" then some .type
  else none

def withScript (w : Workspace) (env : Environment) (command : String) (settings : Option Path)
    (verbose : Bool) (script : Path) (go : Settings.Given → Reading → Run) : Run :=
  match Settings.load w env settings with
  | .error f => fail w command "Failed to load config: " (settings.map ("config", ·)) f
  | .ok g =>
    match if verbose then none else badLevel? g.logLevel with
    | some c => .crashed w c
    | none =>
      match Script.load w g.settings script with
      | .error f => fail w command "" (some ("path", script)) f
      | .ok r => go g r

def saveReport (w : Workspace) (g : Settings.Given) (r : Report) (path : Path) :
    Except Obstacle Workspace := do
  let w ← w.makeDirectory path.parent
  w.write path (r.document.writableJson g.isMute true).toUTF8.toList

def outputText (o : ReadOptions) (g : Settings.Given) (scenario : Option Scenario) (r : Report) :
    String :=
  match o.format, scenario with
  | .yaml, some s => Document.Yaml.spelled g.spell s.fields
  | _, _ => (r.envelope "parse" (o.report.map Path.text)).json o.pretty ++ "\n"

def isMute (g : Settings.Given) : Action → Bool
  | .screenshot name _ => g.isMute name
  | _ => false

def isSilenced (g : Settings.Given) (s : Scenario) : Bool :=
  s.steps.any (isMute g ·.action)

/-- Whether a scenario can be told of. In JSON, a text is told as it is; in YAML, by escapes. -/
def isTellable (o : ReadOptions) (g : Settings.Given) (s : Scenario) : Bool :=
  s.document.isWritable && !(isSilenced g s && (o.format = .json || o.report.isSome))

def runRead (w : Workspace) (env : Environment) (o : ReadOptions) : Run :=
  withScript w env "parse" o.settings o.verbose o.script fun g reading =>
    let verdict := if o.check then reading.scenario.map Scenario.verdict else none
    let report : Report := ⟨o.script.text, reading.outcome, verdict⟩
    if !verdict.all Verdict.isWritable then .crashed w .value
    else match (o.report.map (saveReport w g report)).getD (.ok w) with
      | .error obstacle => .crashed w (.ofObstacle obstacle)
      | .ok w =>
        -- What the report counts, and the places that it tells of, never have too many digits.
        if reading.scenario.all (isTellable o g) then
          .print w (outputText o g reading.scenario report) (if report.passed then 0 else 1)
        else .crashed w .value

def faultLines (r : Reading) : List String :=
  r.outcome.errors.map fun e => "error: " ++ e.located

def findingLine (f : Finding) : String :=
  f.severity.spelling ++ ": " ++ f.path ++ ": " ++ f.flaw.message

def checkLines (r : Reading) : List String :=
  match r.scenario with
  | none => faultLines r
  | some s =>
    [s.verdict.summary] ++ faultLines r ++
      s.verdict.findings.map findingLine ++
      r.outcome.warnings.map ("warning: " ++ ·)

def isClean (r : Reading) : Bool :=
  match r.scenario with
  | none => false
  | some s => r.success && s.verdict.valid

def runCheck (w : Workspace) (env : Environment) (o : CheckOptions) : Run :=
  withScript w env "validate" o.settings o.verbose o.script fun _ reading =>
    if reading.scenario.all (·.verdict.isWritable) then
      .print w (String.join ((checkLines reading).map (· ++ "\n")))
        (if isClean reading then 0 else 1)
    else .crashed w .value

def run (w : Workspace) (env : Environment) (args : List String) : Run :=
  match ofArguments args with
  | .error .usage => ⟨2, "", none, w⟩
  | .error .nullCharacter => .crashed w .value
  | .ok (.read o) => runRead w env o
  | .ok (.check o) => runCheck w env o
  | .ok .grammar => .print w (Grammar.summary ++ "\n") 0

end ScenarioScript.Command
