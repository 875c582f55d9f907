import ScenarioScript.Failure
import ScenarioScript.Walk.Script
import ScenarioScript.Workspace

namespace ScenarioScript.Script

def fileText (w : Workspace) (path : Path) : Except Failure String :=
  match w.lookup path with
  | none => .error (.noScript path)
  | some node =>
    if !Failure.scriptSuffixes.contains path.suffix then .error (.wrongSuffix path.suffix)
    else match node with
      | .directory => .error (.directory path)
      | .file octets => match Utf8.chars octets with
        | .error f => .error (.badText f)
        | .ok cs =>
          let text := Text.unifyBreaks cs
          if Text.trim text = [] then .error (.emptyScript path) else .ok (String.ofList text)

def load (w : Workspace) (settings : Settings) (path : Path) : Except Failure Reading := do
  return read settings (← fileText w path)

end ScenarioScript.Script
