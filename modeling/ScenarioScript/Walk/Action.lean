import ScenarioScript.Arguments
import ScenarioScript.Span
import ScenarioScript.Walk

namespace ScenarioScript.Walk

open Arguments

def tokenAfter (ts : List Token) (i : Nat) (kind : TokenKind) : Walk (Option Token) := do
  if i + 1 < ts.length then
    let t ← tokenAt ts (i + 1)
    if t.kind = kind then return some t
    else return none
  else return none

def spanTurn (head : Token) (ts : List Token) (found : List Token × Nat) :
    Walk (Turn (List Token × Nat) (List Token × Nat)) := do
  let (taken, i) := found
  if i < ts.length then
    let t ← tokenAt ts i
    if Span.endsAt head t then return .done (taken, i)
    else return .again (taken ++ [t], i + 1)
  else return .done (taken, i)

def span (ts : List Token) (start : Nat) : Walk (List Token × Nat) := do
  let head ← tokenAt ts start
  along ts (spanTurn head ts) [head] (start + 1)

def first? (kind : TokenKind) (args : List Token) : Option Token :=
  args.find? (·.kind = kind)

def targetOf (args : List Token) : Walk (Option Int) :=
  match first? .targetId args with
  | some t => toInt? t.text
  | none => return none

def clickTurn (click : MouseButton × Int) (t : Token) : Walk (MouseButton × Int) := do
  if (t.keyword.bind button?).isSome then
    let k ← having "value" t.keyword
    return (← named MouseButton.named k.spelling, click.2)
  else if t.is .double then return (click.1, 2)
  else return click

def click (args : List Token) : Walk (Option Action) := do
  match ← targetOf args with
  | none => return none
  | some target =>
    let (button, count) ← args.foldlM clickTurn (.left, 1)
    return some (.click target button count)

def type (args : List Token) : Walk (Option Action) := do
  match ← targetOf args, first? .string args with
  | some target, some t =>
    return some (.type target t.text (has .clearFirst args) (has .pressEnter args))
  | _, _ => return none

def hover (args : List Token) : Walk (Option Action) := do
  match ← targetOf args with
  | some target => return some (.hover target)
  | none => return none

def scrollTurn (settings : Settings) (d : ScrollDraft) (t : Token) : Walk ScrollDraft := do
  if t.kind = .targetId then return { d with target := ← toInt? t.text }
  else if t.kind = .number then
    return { d with amount := (← toInt? t.text).getD settings.scrollAmount }
  else if (t.keyword.bind direction?).isSome then
    let k ← having "value" t.keyword
    return { d with direction := ← named ScrollDirection.named k.spelling }
  else return d

def scroll (settings : Settings) (args : List Token) : Walk (Option Action) := do
  let d ← args.foldlM (scrollTurn settings) ⟨.down, settings.scrollAmount, none⟩
  return some (.scroll d.direction d.amount d.target)

structure WaitFound where
  condition : Option WaitCondition
  deferred : Option (Int → WaitCondition)
  timeout : Int

inductive Factory
  | ofInteger (kind : TokenKind) (make : Int → WaitCondition)
  | ofText (make : String → WaitCondition)

namespace Factory

def kind : Factory → TokenKind
  | ofInteger kind _ => kind
  | ofText _ => .string

def make (f : Factory) (text : String) : Walk WaitCondition :=
  match f with
  | ofInteger _ make => do return make ((← toInt? text).getD defaultDuration)
  | ofText make => return make text

end Factory

def factory? : Keyword → Option Factory
  | .duration => some (.ofInteger .number .duration)
  | .visible => some (.ofInteger .targetId .elementVisible)
  | .hidden => some (.ofInteger .targetId .elementHidden)
  | .enabled => some (.ofInteger .targetId .elementEnabled)
  | .textPresent => some (.ofText .textPresent)
  | .urlContains => some (.ofText .urlContains)
  | _ => none

def waitTurn (settings : Settings) (args : List Token) (found : WaitFound × Nat) :
    Walk (Turn (WaitFound × Nat) WaitFound) := do
  let (w, i) := found
  if i < args.length then
    let t ← tokenAt args i
    if t.kind = .number then
      let ms := (← toInt? t.text).getD defaultDuration
      return .again ({ w with condition := some (.duration ms), deferred := none }, i + 1)
    else if (t.keyword.bind factory?).isSome then
      let factory ← entry factory? t.keyword
      match ← tokenAfter args i factory.kind with
      | some arg =>
        let condition ← factory.make arg.text
        return .again ({ w with condition := some condition, deferred := none }, i + 2)
      | none => return .again (w, i + 1)
    else if (t.keyword.bind timedCondition?).isSome then
      let condition ← entry timedCondition? t.keyword
      return .again ({ w with condition := none, deferred := some condition }, i + 1)
    else if t.is .timeout then
      match ← tokenAfter args i .number with
      | some arg =>
        let ms := (← toInt? arg.text).getD settings.waitTimeout
        return .again ({ w with timeout := ms }, i + 2)
      | none => return .again (w, i + 1)
    else return .again (w, i + 1)
  else return .done w

def WaitFound.wait (w : WaitFound) : Action :=
  match w.deferred with
  | some condition => .wait (condition w.timeout) w.timeout
  | none => .wait (w.condition.getD (.duration defaultDuration)) w.timeout

def wait (settings : Settings) (args : List Token) : Walk (Option Action) := do
  let w ← along args (waitTurn settings args) ⟨none, none, settings.waitTimeout⟩ 0
  return some w.wait

def pressKey (args : List Token) : Walk (Option Action) := do
  match (first? .string args).bind (nonempty? ·.text) with
  | none => return none
  | some key =>
    let held := args.filter fun t => (t.keyword.bind modifier?).isSome
    let modifiers ← held.mapM fun t => entry modifier? t.keyword
    return some (.pressKey key (.ofList modifiers))

def navigate (args : List Token) : Walk (Option Action) :=
  return (first? .string args).map fun t => .navigate t.text

def assertTurn (args : List Token) (found : Assertion × Nat) :
    Walk (Turn (Assertion × Nat) Assertion) := do
  let (a, i) := found
  if i < args.length then
    let t ← tokenAt args i
    if (t.keyword.bind flag?).isSome then
      return .again (← entry flag? t.keyword, i + 1)
    else if (t.keyword.bind textAssertion?).isSome then
      match ← tokenAfter args i .string with
      | some arg => return .again ((← entry textAssertion? t.keyword) arg.text, i + 2)
      | none => return .again (a, i + 1)
    else if t.is .attributeEquals then
      match ← tokenAfter args i .string, ← tokenAfter args (i + 1) .string with
      | some name, some value => return .again (.attributeEquals name.text value.text, i + 3)
      | _, _ => return .again (a, i + 1)
    else return .again (a, i + 1)
  else return .done a

def assert (args : List Token) : Walk (Option Action) := do
  match ← targetOf args with
  | none => return none
  | some target =>
    let a ← along args (assertTurn args) .visible 0
    return some (.assert target a)

def selectTurn (args : List Token) (found : Choice × Nat) : Walk (Turn (Choice × Nat) Choice) := do
  let (c, i) := found
  if i < args.length then
    let t ← tokenAt args i
    if t.is .value ∨ t.is .label then
      match ← tokenAfter args i .string with
      | some arg =>
        if t.is .value then return .again ({ c with value := some arg.text }, i + 2)
        else return .again ({ c with label := some arg.text }, i + 2)
      | none => return .again (c, i + 1)
    else if t.is .index then
      match ← tokenAfter args i .number with
      | some arg => return .again ({ c with index := ← toInt? arg.text }, i + 2)
      | none => return .again (c, i + 1)
    else return .again (c, i + 1)
  else return .done c

def select (args : List Token) : Walk (Option Action) := do
  match ← targetOf args with
  | none => return none
  | some target =>
    let c ← along args (selectTurn args) ⟨none, none, none⟩ 0
    return some (.select target c.value c.label c.index)

def uploadFile (args : List Token) : Walk (Option Action) := do
  match ← targetOf args, (first? .string args).bind (nonempty? ·.text) with
  | some target, some path => return some (.uploadFile target path)
  | _, _ => return none

def screenshot (settings : Settings) (args : List Token) : Walk (Option Action) :=
  let name := ((first? .string args).map (·.text)).getD settings.screenshotName
  return some (.screenshot name (has .fullPage args))

def reader? (settings : Settings) : Keyword → Option (List Token → Walk (Option Action))
  | .click => some click
  | .type => some type
  | .hover => some hover
  | .scroll => some (scroll settings)
  | .wait => some (wait settings)
  | .pressKey => some pressKey
  | .navigate => some navigate
  | .goBack => some fun _ => return some .goBack
  | .goForward => some fun _ => return some .goForward
  | .refresh => some fun _ => return some .refresh
  | .assert => some assert
  | .select => some select
  | .uploadFile => some uploadFile
  | .screenshot => some (screenshot settings)
  | _ => none

def action (settings : Settings) (span : List Token) : Walk (Option Action) := do
  if span.isEmpty then return none
  let head ← tokenAt span 0
  match head.keyword.bind (reader? settings) with
  | none =>
    caution (.unknownAction head.text) head
    return none
  | some read =>
    let a ← read (span.drop 1)
    if a.isNone then caution (.incompleteAction head.text) head
    return a

end ScenarioScript.Walk
