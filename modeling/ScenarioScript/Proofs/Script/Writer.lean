import ScenarioScript.Decimal
import ScenarioScript.Proofs.Lexeme.Spelled
import ScenarioScript.Proofs.Scenario.Parts
import ScenarioScript.Script

/-! Scenarios written as scripts: the header, the settings, and a block for each step with its action
on one line and each of its settings on a line of its own. -/

namespace ScenarioScript

def MouseButton.keyword : MouseButton → Keyword
  | left => .left
  | right => .right
  | middle => .middle

def ScrollDirection.keyword : ScrollDirection → Keyword
  | up => .up
  | down => .down
  | left => .left
  | right => .right

def KeyModifier.keyword : KeyModifier → Keyword
  | ctrl => .ctrl
  | alt => .alt
  | shift => .shift
  | metaKey => .metaKey

def Priority.keyword : Priority → Keyword
  | critical => .critical
  | high => .high
  | medium => .medium
  | low => .low

def Word.flag (k : Keyword) (b : Bool) : List Word :=
  if b then [.keyword k] else []

def WaitCondition.words : WaitCondition → List Word
  | duration ms => [.keyword .duration, .number ms]
  | elementVisible t => [.keyword .visible, .target t]
  | elementHidden t => [.keyword .hidden, .target t]
  | elementEnabled t => [.keyword .enabled, .target t]
  | textPresent s => [.keyword .textPresent, .quoted s]
  | urlContains s => [.keyword .urlContains, .quoted s]
  | pageLoaded _ => [.keyword .pageLoaded]
  | networkIdle _ => [.keyword .networkIdle]

def Assertion.words : Assertion → List Word
  | visible => [.keyword .visible]
  | hidden => [.keyword .hidden]
  | enabled => [.keyword .enabled]
  | disabled => [.keyword .disabled]
  | checked => [.keyword .checked]
  | unchecked => [.keyword .unchecked]
  | textEquals s => [.keyword .textEquals, .quoted s]
  | textContains s => [.keyword .textContains, .quoted s]
  | attributeEquals name value => [.keyword .attributeEquals, .quoted name, .quoted value]
  | hasClass s => [.keyword .hasClass, .quoted s]

namespace Action

def keyword : Action → Keyword
  | click .. => .click
  | type .. => .type
  | hover _ => .hover
  | scroll .. => .scroll
  | wait .. => .wait
  | pressKey .. => .pressKey
  | navigate _ => .navigate
  | goBack => .goBack
  | goForward => .goForward
  | refresh => .refresh
  | assert .. => .assert
  | select .. => .select
  | uploadFile .. => .uploadFile
  | screenshot .. => .screenshot

def arguments : Action → List Word
  | click t b n => [.target t, .keyword b.keyword] ++ Word.flag .double (n = 2)
  | type t s clearFirst pressEnter =>
    [.target t, .quoted s] ++ Word.flag .clearFirst clearFirst ++ Word.flag .pressEnter pressEnter
  | hover t => [.target t]
  | scroll d n t => [.keyword d.keyword, .number n] ++ t.toList.map .target
  | wait c n => c.words ++ [.keyword .timeout, .number n]
  | pressKey s m => .quoted s :: m.toList.map fun k => .keyword k.keyword
  | navigate s => [.quoted s]
  | goBack | goForward | refresh => []
  | assert t a => .target t :: a.words
  | select t value label index =>
    .target t :: (value.toList.flatMap fun s => [.keyword .value, .quoted s]) ++
      (label.toList.flatMap fun s => [.keyword .label, .quoted s]) ++
      index.toList.flatMap fun n => [.keyword .index, .number n]
  | uploadFile t s => [.target t, .quoted s]
  | screenshot s fullPage => .quoted s :: Word.flag .fullPage fullPage

def words (a : Action) : List Word :=
  .keyword a.keyword :: a.arguments

end Action

structure Line where
  indent : ℕ
  words : List Word

def Line.chars (l : Line) : List Char :=
  Word.line l.indent l.words

namespace Step

def settingLines (s : Step) : List Line :=
  (s.expected.toList.map fun e => ⟨8, [.keyword .expect, .quoted e]⟩) ++
    (s.timeout.toList.map fun n => ⟨8, [.keyword .timeout, .number n]⟩) ++
    [⟨8, [.keyword .retry, .number s.retries]⟩] ++
    if s.continueOnFailure then [⟨8, [.keyword .continueOnFailure]⟩] else []

def bodyLines (s : Step) : List Line :=
  ⟨8, s.action.words⟩ :: s.settingLines

def lines (s : Step) : List Line :=
  ⟨0, []⟩ :: ⟨4, [.keyword .step, .quoted s.description, .opening]⟩ :: s.bodyLines ++
    [⟨4, [.closing]⟩]

end Step

namespace Scenario

def lines (s : Scenario) : List Line :=
  [⟨0, [.keyword .scenario, .quoted s.name, .opening]⟩,
    ⟨4, [.keyword .description, .quoted s.description]⟩,
    ⟨4, [.keyword .url, .quoted s.startUrl]⟩,
    ⟨4, [.keyword .tags, .tags s.tags.toList]⟩,
    ⟨4, [.keyword .priority, .keyword s.priority.keyword]⟩] ++
    s.steps.flatMap Step.lines ++ [⟨0, [.closing]⟩]

def script (s : Scenario) : String :=
  String.ofList (s.lines.flatMap fun l => l.chars ++ ['\n'])

end Scenario

namespace Word

/-- What stands behind the keyword of an action: its targets and texts, numbers, and keywords that
begin nothing new. -/
inductive Argument (a : Action) : Word → Prop
  | target {t : ℤ} (h : t ∈ a.targets) : Argument a (.target t)
  | quoted {s : String} (h : s ∈ a.texts) : Argument a (.quoted s)
  | number (n : ℤ) : Argument a (.number n)
  | keyword {k : Keyword} (ha : k.isAction = false)
      (hs : k.isStepSetting = true → k = .timeout ∧ a.keyword = .wait) : Argument a (.keyword k)

lemma Argument.plain {a : Action} {k : Keyword} (ha : k.isAction = false)
    (hs : k.isStepSetting = false) : Argument a (.keyword k) :=
  .keyword ha (by simp [hs])

lemma Argument.flag {a : Action} {k : Keyword} (ha : k.isAction = false)
    (hs : k.isStepSetting = false) {b : Bool} {w : Word} (hw : w ∈ Word.flag k b) :
    Argument a w := by
  cases b with
  | false => simp [Word.flag] at hw
  | true =>
    obtain rfl : w = .keyword k := by simpa [Word.flag] using hw
    exact .plain ha hs

lemma argument_of_mem_condition {c : WaitCondition} {n : ℤ} {w : Word} (hw : w ∈ c.words) :
    Argument (.wait c n) w := by
  cases c <;>
    simp only [WaitCondition.words, List.mem_cons, List.not_mem_nil, or_false] at hw <;>
    rcases hw with rfl | rfl <;>
    first
      | exact .plain rfl rfl
      | exact .number _
      | exact .target (List.mem_singleton_self _)
      | exact .quoted (List.mem_singleton_self _)

lemma argument_of_mem_assertion {t : ℤ} {a : Assertion} {w : Word} (hw : w ∈ a.words) :
    Argument (.assert t a) w := by
  cases a <;>
    simp only [Assertion.words, List.mem_cons, List.not_mem_nil, or_false] at hw <;>
    rcases hw with rfl | rfl | rfl <;>
    first
      | exact .plain rfl rfl
      | exact .quoted (by simp [Action.texts, Assertion.texts])

lemma argument_of_mem {a : Action} {w : Word} (hw : w ∈ a.arguments) : Argument a w := by
  cases a with
  | click t b n =>
    simp only [Action.arguments, List.mem_append, List.mem_cons, List.not_mem_nil, or_false] at hw
    rcases hw with (rfl | rfl) | hw
    · exact .target (by simp [Action.targets])
    · cases b <;> exact .plain rfl rfl
    · exact .flag rfl rfl hw
  | type t s clearFirst pressEnter =>
    simp only [Action.arguments, List.mem_append, List.mem_cons, List.not_mem_nil, or_false] at hw
    rcases hw with ((rfl | rfl) | hw) | hw
    · exact .target (by simp [Action.targets])
    · exact .quoted (by simp [Action.texts])
    · exact .flag rfl rfl hw
    · exact .flag rfl rfl hw
  | hover t =>
    obtain rfl : w = .target t := by simpa [Action.arguments] using hw
    exact .target (by simp [Action.targets])
  | scroll d n t =>
    simp only [Action.arguments, List.mem_append, List.mem_cons, List.mem_map, List.not_mem_nil,
      or_false] at hw
    rcases hw with (rfl | rfl) | ⟨t', ht', rfl⟩
    · cases d <;> exact .plain rfl rfl
    · exact .number n
    · exact .target ht'
  | wait c n =>
    simp only [Action.arguments, List.mem_append, List.mem_cons, List.not_mem_nil, or_false] at hw
    rcases hw with hw | rfl | rfl
    · exact argument_of_mem_condition hw
    · exact .keyword rfl fun _ => ⟨rfl, rfl⟩
    · exact .number n
  | pressKey s m =>
    simp only [Action.arguments, List.mem_cons, List.mem_map] at hw
    rcases hw with rfl | ⟨k, -, rfl⟩
    · exact .quoted (by simp [Action.texts])
    · cases k <;> exact .plain rfl rfl
  | navigate s =>
    obtain rfl : w = .quoted s := by simpa [Action.arguments] using hw
    exact .quoted (by simp [Action.texts])
  | goBack | goForward | refresh => simp [Action.arguments] at hw
  | assert t a =>
    rcases List.mem_cons.mp hw with rfl | hw
    · exact .target (by simp [Action.targets])
    · exact argument_of_mem_assertion hw
  | select t value label index =>
    simp only [Action.arguments, List.mem_append, List.mem_cons, List.mem_flatMap, List.not_mem_nil,
      or_false] at hw
    rcases hw with ((rfl | ⟨s, hs, rfl | rfl⟩) | ⟨s, hs, rfl | rfl⟩) | ⟨n, -, rfl | rfl⟩
    · exact .target (by simp [Action.targets])
    · exact .plain rfl rfl
    · exact .quoted (List.mem_append_left _ hs)
    · exact .plain rfl rfl
    · exact .quoted (List.mem_append_right _ hs)
    · exact .plain rfl rfl
    · exact .number n
  | uploadFile t s =>
    simp only [Action.arguments, List.mem_cons, List.not_mem_nil, or_false] at hw
    rcases hw with rfl | rfl
    · exact .target (by simp [Action.targets])
    · exact .quoted (by simp [Action.texts])
  | screenshot s fullPage =>
    rcases List.mem_cons.mp hw with rfl | hw
    · exact .quoted (by simp [Action.texts])
    · exact .flag rfl rfl hw

end Word

end ScenarioScript
