import ScenarioScript.Command.Run

/-! The command line. It takes a picture of the files that its words may name, runs the command on
that, and writes back what the run has made. -/

namespace ScenarioScript.Main

def pathOf (l : Location) : String :=
  "/" ++ "/".intercalate l

def locationOf (current : Location) (p : Path) : Location :=
  p.parts.foldl (fun l part => if part = ".." then l.dropLast else l ++ [part])
    (if p.isAbsolute then [] else current)

def upward (l : Location) : List Location :=
  (List.range l.length).map fun n => l.take (n + 1)

def directoryError : UInt32 := 21

def look (l : Location) : IO (Option (Location × Node)) := do
  try
    let octets ← IO.FS.readBinFile (pathOf l)
    return some (l, .file octets.toList)
  catch
    | .inappropriateType _ code _ =>
      return if code = directoryError then some (l, .directory) else none
    | _ => return none

def candidates (env : Environment) (args : List String) : List Path :=
  Settings.homePath env ::
    (env.settingsPath :: args ++ args.filterMap fun s => (Command.splitValue s).2).map Path.ofText

def survey (env : Environment) (args : List String) : IO Workspace := do
  let current := (Path.ofText (toString (← IO.currentDir))).parts
  let places := (candidates env args).flatMap fun p => upward (locationOf current p)
  let nodes ← places.eraseDups.filterMapM look
  return ⟨nodes, current⟩

def keep (before : Workspace) (n : Location × Node) : IO Unit := do
  if before.nodes.lookup n.1 = some n.2 then return
  match n.2 with
  | .directory => IO.FS.createDirAll (pathOf n.1)
  | .file octets => IO.FS.writeBinFile (pathOf n.1) ⟨octets.toArray⟩

def environment : IO Environment := do
  let get (name : String) : IO String := do return (← IO.getEnv name).getD ""
  return ⟨← get "HOME", ← get "E2E_DSL_CONFIG", ← get "E2E_DSL_LOG_LEVEL"⟩

def crashText : Command.Crash → String
  | .directory => "a directory stands where a file is needed"
  | .exists => "a file stands where a directory is needed"
  | .notDirectory => "a path leads through a file"
  | .missing => "a path leads nowhere"
  | .value => "a value is not understood"
  | .type => "a value is of the wrong kind"
  | .index => "a number has no digits"
  | .key => "a word is not among those that are known"
  | .attribute => "a value has no such part"
  | .overflow => "a number is too large"

def start (args : List String) : IO UInt32 := do
  let env ← environment
  let before ← survey env args
  let run := Command.run before env args
  run.workspace.nodes.reverse.forM (keep before)
  IO.print run.printed
  match run.crash with
  | some c => IO.eprintln (crashText c)
  | none => if run.exitCode = 2 then IO.eprintln "The command line is not understood."
  return run.exitCode.toUInt32

end ScenarioScript.Main

def main (args : List String) : IO UInt32 :=
  ScenarioScript.Main.start args
