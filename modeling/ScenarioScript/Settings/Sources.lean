import ScenarioScript.Action
import ScenarioScript.Failure
import ScenarioScript.Text.Capital
import ScenarioScript.Workspace
import ScenarioScript.Yaml.Compose

/-! Where settings come from: a file that is asked for, else one that the environment names, else
the one in the home directory if it is there. The environment may also set the level of the log. -/

namespace ScenarioScript

/-- Variables that are empty count as absent. -/
structure Environment where
  home : String
  settingsPath : String
  logLevel : String
  deriving DecidableEq, Repr

namespace Settings

open Yaml (Point)

structure Given where
  waitTimeout : Int
  scrollAmount : Int
  name : List Point
  level : List Point
  deriving DecidableEq, Repr

namespace Given

def ofSettings (s : Settings) : Given :=
  ⟨s.waitTimeout, s.scrollAmount, Point.ofText s.screenshotName, Point.ofText s.logLevel⟩

/-- Two characters stand for a surrogate. The first is in no text of a script, and the second in no
path, so that nothing else is taken for a text that holds one. -/
def standIn : Point → List Char
  | .char c => [c]
  | .surrogate _ => ['\r', '\x00']

def textOf (ps : List Point) : String :=
  String.ofList (ps.flatMap standIn)

def screenshotName (g : Given) : String :=
  textOf g.name

def logLevel (g : Given) : String :=
  textOf g.level

def settings (g : Given) : Settings :=
  ⟨g.waitTimeout, g.scrollAmount, g.screenshotName, g.logLevel⟩

/-- Whether a text has no octets: whether it is the name of screenshots, with a surrogate in it. -/
def isMute (g : Given) (t : String) : Bool :=
  t = g.screenshotName && !g.name.all Point.isChar

def spell (g : Given) (t : String) : List Point :=
  if g.isMute t then g.name else Point.ofText t

end Given

def homePath (env : Environment) : Path :=
  let home := Path.ofText env.home
  { home with parts := home.parts ++ [".e2e-dsl", "config.yaml"] }

inductive Form
  | integer | text
  deriving DecidableEq, Repr

def Form.typeName : Form → String
  | integer => "int"
  | text => "str"

def forms : List (String × Form) := [
  ("default_wait_timeout_ms", .integer),
  ("default_scroll_amount", .integer),
  ("default_screenshot_name", .text),
  ("log_level", .text)]

def Given.set? (g : Given) (key : String) (v : Yaml.Value) : Option Given :=
  match v with
  | .int n =>
    if key = "default_wait_timeout_ms" then some { g with waitTimeout := n }
    else if key = "default_scroll_amount" then some { g with scrollAmount := n }
    else none
  | .text t =>
    if key = "default_screenshot_name" then some { g with name := t }
    else if key = "log_level" then some { g with level := t }
    else none
  | _ => none

def known? : Yaml.Value → Option (String × Form)
  | .text ps => do
    let key ← Point.text? ps
    return (key, ← forms.lookup key)
  | _ => none

def Given.setField (g : Given) (f : Yaml.Value × Yaml.Value) : Except Failure Given :=
  match known? f.1 with
  | none => .ok g
  | some (key, form) => match g.set? key f.2 with
    | some g => .ok g
    | none => .error (.wrongType key form.typeName f.2.typeName)

def Given.setFields (g : Given) : List (Yaml.Value × Yaml.Value) → Except Failure Given
  | [] => .ok g
  | f :: fs => do setFields (← g.setField f) fs

def isTold : Yaml.Value → Bool
  | .int n => Decimal.isShort n
  | _ => true

def defaults : Given :=
  .ofSettings {}

/-- The settings after all fields of a file; the keys that name no setting are told of last. -/
def ofFields (fs : List (Yaml.Value × Yaml.Value)) : Except Failure Given := do
  let g ← defaults.setFields fs
  if fs.all (isTold ·.1) then return g else throw .longKey

def fieldsOf (path : Path) (octets : List UInt8) :
    Except Failure (List (Yaml.Value × Yaml.Value)) :=
  match (Yaml.Source.ofOctets octets).value with
  | .error .malformed => .error (.malformedSettings path)
  | .error f => .error (.badValue f)
  | .ok .null => .ok []
  | .ok (.record fs) => .ok fs
  | .ok v => .error (.noMapping v.typeName path)

def asked (env : Environment) (explicit : Option Path) : Option Path :=
  explicit.or (Path.named? env.settingsPath)

def file? (w : Workspace) (env : Environment) (explicit : Option Path) :
    Except Failure (Option (Path × Node)) :=
  match asked env explicit with
  | some path => match w.lookup path with
    | some node => .ok (some (path, node))
    | none => .error (.noSettings path)
  | none => .ok ((w.lookup (homePath env)).map fun node => (homePath env, node))

def withEnvironment (env : Environment) (g : Given) : Given :=
  if env.logLevel.isEmpty then g
  else
    let level := Text.capitals (String.ofList (Text.trim env.logLevel.toList))
    { g with level := Point.ofText level }

def load (w : Workspace) (env : Environment) (explicit : Option Path) :
    Except Failure Given := do
  let fields ← match ← file? w env explicit with
    | none => pure []
    | some (path, .directory) => throw (.directory path)
    | some (path, .file octets) => fieldsOf path octets
  return withEnvironment env (← ofFields fields)

end Settings

end ScenarioScript
