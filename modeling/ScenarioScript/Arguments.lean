import ScenarioScript.Action
import ScenarioScript.Decimal
import ScenarioScript.Diagnostic
import ScenarioScript.Token

/-! Actions from spans: what each action takes from the tokens behind its head. Where an argument
may be given more than once the last complete one counts; target ids, and the strings that stand for
themselves, are the first of their kind. -/

namespace ScenarioScript

def defaultDuration : Int := 1000

namespace Arguments

def firstText? (kind : TokenKind) (args : List Token) : Option String :=
  (args.find? (·.kind = kind)).map (·.text)

def target? (args : List Token) : Option Int :=
  (firstText? .targetId args).bind Decimal.read?

def has (k : Keyword) (args : List Token) : Bool :=
  args.any (·.is k)

def front? (kind : TokenKind) : List Token → Option String
  | t :: _ => if t.kind = kind then some t.text else none
  | [] => none

def button? : Keyword → Option MouseButton
  | .left => some .left
  | .right => some .right
  | .middle => some .middle
  | _ => none

def direction? : Keyword → Option ScrollDirection
  | .up => some .up
  | .down => some .down
  | .left => some .left
  | .right => some .right
  | _ => none

def modifier? : Keyword → Option KeyModifier
  | .ctrl => some .ctrl
  | .alt => some .alt
  | .shift => some .shift
  | .metaKey => some .metaKey
  | _ => none

def flag? : Keyword → Option Assertion
  | .visible => some .visible
  | .hidden => some .hidden
  | .enabled => some .enabled
  | .disabled => some .disabled
  | .checked => some .checked
  | .unchecked => some .unchecked
  | _ => none

def textAssertion? : Keyword → Option (String → Assertion)
  | .textEquals => some .textEquals
  | .textContains => some .textContains
  | .hasClass => some .hasClass
  | _ => none

def integerOr (default : Int) (text : String) : Int :=
  (Decimal.read? text).getD default

def condition? : Keyword → Option (TokenKind × (String → WaitCondition))
  | .duration => some (.number, fun s => .duration (integerOr defaultDuration s))
  | .visible => some (.targetId, fun s => .elementVisible (integerOr defaultDuration s))
  | .hidden => some (.targetId, fun s => .elementHidden (integerOr defaultDuration s))
  | .enabled => some (.targetId, fun s => .elementEnabled (integerOr defaultDuration s))
  | .textPresent => some (.string, .textPresent)
  | .urlContains => some (.string, .urlContains)
  | _ => none

def timedCondition? : Keyword → Option (Int → WaitCondition)
  | .pageLoaded => some .pageLoaded
  | .networkIdle => some .networkIdle
  | _ => none

structure WaitDraft where
  condition : Int → WaitCondition
  timeout : Int

def WaitDraft.wait (d : WaitDraft) : Action :=
  .wait (d.condition d.timeout) d.timeout

def readWait (settings : Settings) (d : WaitDraft) : List Token → WaitDraft
  | [] => d
  | t :: rest =>
    if t.kind = .number then
      let ms := integerOr defaultDuration t.text
      readWait settings { d with condition := fun _ => .duration ms } rest
    else match t.keyword with
      | none => readWait settings d rest
      | some k =>
        match condition? k, timedCondition? k with
        | some (kind, condition), _ =>
          match front? kind rest with
          | some text => readWait settings { d with condition := fun _ => condition text } rest.tail
          | none => readWait settings d rest
        | none, some condition => readWait settings { d with condition := condition } rest
        | none, none =>
          if k = .timeout then
            match front? .number rest with
            | some text =>
              readWait settings { d with timeout := integerOr settings.waitTimeout text } rest.tail
            | none => readWait settings d rest
          else readWait settings d rest
termination_by args => args.length
decreasing_by all_goals (simp; try omega)

def readAssertion (found : Assertion) : List Token → Assertion
  | [] => found
  | t :: rest =>
    match t.keyword with
    | none => readAssertion found rest
    | some k =>
      match flag? k, textAssertion? k with
      | some a, _ => readAssertion a rest
      | none, some a =>
        match front? .string rest with
        | some text => readAssertion (a text) rest.tail
        | none => readAssertion found rest
      | none, none =>
        if k = .attributeEquals then
          match front? .string rest, front? .string rest.tail with
          | some name, some value => readAssertion (.attributeEquals name value) rest.tail.tail
          | _, _ => readAssertion found rest
        else readAssertion found rest
termination_by args => args.length
decreasing_by all_goals (simp; try omega)

structure Choice where
  value : Option String
  label : Option String
  index : Option Int

def readChoice (c : Choice) : List Token → Choice
  | [] => c
  | t :: rest =>
    match t.keyword with
    | some .value =>
      match front? .string rest with
      | some text => readChoice { c with value := some text } rest.tail
      | none => readChoice c rest
    | some .label =>
      match front? .string rest with
      | some text => readChoice { c with label := some text } rest.tail
      | none => readChoice c rest
    | some .index =>
      match front? .number rest with
      | some text => readChoice { c with index := Decimal.read? text } rest.tail
      | none => readChoice c rest
    | _ => readChoice c rest
termination_by args => args.length
decreasing_by all_goals (simp; try omega)

structure ScrollDraft where
  direction : ScrollDirection
  amount : Int
  target : Option Int

def readScroll (settings : Settings) (d : ScrollDraft) (t : Token) : ScrollDraft :=
  match t.kind with
  | .targetId => { d with target := Decimal.read? t.text }
  | .number => { d with amount := integerOr settings.scrollAmount t.text }
  | _ => match t.keyword.bind direction? with
    | some direction => { d with direction := direction }
    | none => d

def lastButton (args : List Token) : MouseButton :=
  (args.filterMap (·.keyword.bind button?)).getLast?.getD .left

def modifiers (args : List Token) : Modifiers :=
  .ofList (args.filterMap (·.keyword.bind modifier?))

def nonempty? (s : String) : Option String :=
  if s.isEmpty then none else some s

end Arguments

namespace Action

open Arguments

def ofArguments? (settings : Settings) (args : List Token) : Keyword → Option (Option Action)
  | .click => some do
      return .click (← target? args) (lastButton args) (if has .double args then 2 else 1)
  | .type => some do
      return .type (← target? args) (← firstText? .string args) (has .clearFirst args)
        (has .pressEnter args)
  | .hover => some do
      return .hover (← target? args)
  | .scroll =>
      let d := args.foldl (readScroll settings) ⟨.down, settings.scrollAmount, none⟩
      some (some (.scroll d.direction d.amount d.target))
  | .wait =>
      let d := readWait settings ⟨fun _ => .duration defaultDuration, settings.waitTimeout⟩ args
      some (some d.wait)
  | .pressKey => some do
      return .pressKey (← (firstText? .string args).bind nonempty?) (modifiers args)
  | .navigate => some do
      return .navigate (← firstText? .string args)
  | .goBack => some (some .goBack)
  | .goForward => some (some .goForward)
  | .refresh => some (some .refresh)
  | .assert => some do
      return .assert (← target? args) (readAssertion .visible args)
  | .select => some do
      let target ← target? args
      let c := readChoice ⟨none, none, none⟩ args
      return .select target c.value c.label c.index
  | .uploadFile => some do
      return .uploadFile (← target? args) (← (firstText? .string args).bind nonempty?)
  | .screenshot =>
      some (some (.screenshot ((firstText? .string args).getD settings.screenshotName)
        (has .fullPage args)))
  | _ => none

def ofSpan (settings : Settings) (head : Token) (args : List Token) : Except Caution Action :=
  match head.keyword.bind (ofArguments? settings args) with
  | none => .error ⟨head.line, .unknownAction head.text⟩
  | some none => .error ⟨head.line, .incompleteAction head.text⟩
  | some (some a) => .ok a

theorem ofSpan_eq_ok_iff {settings : Settings} {head : Token} {args : List Token} {a : Action} :
    ofSpan settings head args = .ok a ↔
      ∃ k, head.keyword = some k ∧ ofArguments? settings args k = some (some a) := by
  rw [← Option.bind_eq_some_iff]
  unfold ofSpan
  split
  · next h => simp [h]
  · next h => simp [h]
  · next h => simp [h]

def ofTokens (settings : Settings) : List Token → Option Action × List Caution
  | [] => (none, [])
  | head :: args => match ofSpan settings head args with
    | .ok a => (some a, [])
    | .error c => (none, [c])

end Action

end ScenarioScript
