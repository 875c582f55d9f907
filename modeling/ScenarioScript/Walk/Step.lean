import ScenarioScript.Script
import ScenarioScript.Walk.Action

namespace ScenarioScript.Walk

structure BodyFound where
  tokens : List Token
  depth : Int
  opened : Bool

def bodyTurn (b : BodyFound) : Walk (Turn BodyFound (List Token × Bool)) := do
  if ← hasNext then
    let ahead ← having "is_keyword" (← peek?)
    if b.opened = false ∧ ahead.is .step then return .done (b.tokens, false)
    else
      let t ← next
      match t.kind with
      | .braceOpen => return .again { b with depth := b.depth + 1, opened := true }
      | .braceClose =>
        if b.opened = false then return .done (b.tokens, true)
        else if b.depth - 1 = 0 then return .done (b.tokens, true)
        else return .again { b with depth := b.depth - 1 }
      | _ => return .again { b with tokens := if b.opened then b.tokens ++ [t] else b.tokens }
  else return .done (b.tokens, false)

def body : Walk (List Token × Bool) :=
  loop (fun _ c => c.pending.length) bodyTurn ⟨[], 0, false⟩

def entryTurn (settings : Settings) (description : String) (body : List Token)
    (found : StepDraft × Nat) : Walk (Turn (StepDraft × Nat) StepDraft) := do
  let (d, i) := found
  if i < body.length then
    let t ← tokenAt body i
    if t.kind ≠ .keyword then return .again (d, i + 1)
    else match t.keyword with
      | some .expect =>
        match ← tokenAfter body i .string with
        | some value => return .again ({ d with expected := some value.text }, i + 2)
        | none => return .again (d, i + 1)
      | some .timeout =>
        match ← tokenAfter body i .number with
        | some value => return .again ({ d with timeout := ← toInt? value.text }, i + 2)
        | none => return .again (d, i + 1)
      | some .retry =>
        match ← tokenAfter body i .number with
        | some value =>
          let count := (← toInt? value.text).getD 0
          if count < 0 then
            caution (.negativeRetries description) value
            return .again ({ d with retries := 0 }, i + 2)
          else return .again ({ d with retries := count }, i + 2)
        | none => return .again (d, i + 1)
      | some .continueOnFailure => return .again ({ d with continueOnFailure := true }, i + 1)
      | _ =>
        let (taken, stop) ← span body i
        if d.action.isNone then
          return .again ({ d with action := ← action settings taken }, stop)
        else
          caution (.furtherAction description t.text) t
          return .again (d, stop)
  else return .done d

def describe : Walk String := do
  if (← peek?).any (·.kind = .string) then return (← next).text else return ""

def settle (settings : Settings) (head : Token) (index : Nat) (description : String)
    (body : List Token) : Walk (Option Step) := do
  let d ← along body (entryTurn settings description body) StepDraft.empty 0
  match d.action with
  | none =>
    fault (.stepWithoutAction description) head
    return none
  | some a =>
    return some ⟨Script.stepId index, description, a, d.expected, d.timeout, d.retries,
      d.continueOnFailure⟩

def step (settings : Settings) (head : Token) (index : Nat) : Walk (Option Step) := do
  let description ← describe
  let (tokens, closed) ← body
  if !closed then caution (.unclosedStep description) head
  settle settings head index description tokens

end ScenarioScript.Walk
