import ScenarioScript.Report
import ScenarioScript.Sketch

namespace ScenarioScript

namespace Part

def field (fs : List (String × Part)) (name : String) : Part :=
  (fs.lookup name).getD .null

def flawBelow (zeroAllowed : Bool) (flaw : Document → Flaw) (p : Part) :
    Except Misfit (List Flaw) :=
  let misfit := .incomparable (if zeroAllowed then "<" else "<=") p.typeName "int"
  match p with
  | plain d =>
    match d.number? with
    | some n => .ok (if n < 0 || (n = 0 && !zeroAllowed) then [flaw d] else [])
    | none => .error misfit
  | _ => .error misfit

def flawUnless (flaw : Flaw) (p : Part) : List Flaw :=
  if p.isTruthy then [] else [flaw]

def isNull : Part → Bool
  | plain .null => true
  | _ => false

def durationFlaws : Part → Except Misfit (List Flaw)
  | variant "duration" fs => (field fs "ms").flawBelow false .waitDuration
  | _ => .ok []

def selectFlaws (fs : List (String × Part)) : Except Misfit (List Flaw) := do
  let index := field fs "index"
  let low ← if index.isNull then pure [] else index.flawBelow true .selectIndex
  let options := [field fs "value", field fs "label", index]
  return low ++ if options.all isNull then [.noOption] else []

def flaws : Part → Except Misfit (List Flaw)
  | variant "wait" fs => do
    let low ← (field fs "timeout_ms").flawBelow false .waitTimeout
    return low ++ (← (field fs "condition").durationFlaws)
  | variant "scroll" fs => (field fs "amount").flawBelow false .scrollAmount
  | variant "navigate" fs => .ok ((field fs "url").flawUnless .noUrl)
  | variant "select" fs => selectFlaws fs
  | variant "type" fs => .ok ((field fs "text").flawUnless .noText)
  | variant "screenshot" fs => .ok ((field fs "name").flawUnless .noScreenshotName)
  | _ => .ok []

end Part

namespace Sketch

def Step.flaws (s : Step) : Except Misfit (List Flaw) := do
  let timeout := Part.plain s.timeout
  let timeout ← if timeout.isNull then pure [] else timeout.flawBelow false .stepTimeout
  let retries ← (Part.plain s.retries).flawBelow true .retries
  return timeout ++ retries ++ (← s.action.flaws)

def Step.findings (i : Nat) : List Step → Except Misfit (List Finding)
  | [] => .ok []
  | s :: ss => return (← s.flaws).map (⟨some i, ·⟩) ++ (← findings (i + 1) ss)

def nameFindings : Document → Except Misfit (List Finding)
  | .text s => .ok (if Text.trim s.toList = [] then [⟨none, .blankName⟩] else [])
  | d => .error (.noMember d.typeName "strip")

def verdict (s : Sketch) : Except Misfit Verdict := do
  let name ← nameFindings s.name
  let url := if s.startUrl.isTruthy then [] else [⟨none, .noStartUrl⟩]
  let steps ← Step.findings 0 s.steps
  return .ofFindings
    (name ++ url ++ steps ++ if s.steps.isEmpty then [⟨none, .noSteps⟩] else [])

def subject (s : Sketch) : Except Misfit Subject := do
  return ⟨s.name, s.steps.length, .record (← s.fields)⟩

end Sketch

end ScenarioScript
