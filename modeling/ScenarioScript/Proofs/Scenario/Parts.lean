import Mathlib.Data.Int.Notation
import ScenarioScript.Scenario
import ScenarioScript.Text.Lines

namespace ScenarioScript

/-- A text of which the line feed is the only break. -/
def Text.Unbroken (s : String) : Prop :=
  ∀ c ∈ s.toList, isLineBreak c = true → c = '\n'

-- Named, since an instance may as well run through all characters there are.
instance (s : String) : Decidable (Text.Unbroken s) :=
  List.decidableBAll _ _

namespace WaitCondition

def targets : WaitCondition → List ℤ
  | elementVisible t | elementHidden t | elementEnabled t => [t]
  | _ => []

def numbers : WaitCondition → List ℤ
  | duration n | elementVisible n | elementHidden n | elementEnabled n | pageLoaded n
  | networkIdle n => [n]
  | textPresent _ | urlContains _ => []

def texts : WaitCondition → List String
  | textPresent s | urlContains s => [s]
  | _ => []

def Lasts (timeout : ℤ) : WaitCondition → Prop
  | pageLoaded t | networkIdle t => t = timeout
  | _ => True

instance (timeout : ℤ) : DecidablePred (Lasts timeout)
  | pageLoaded t | networkIdle t => inferInstanceAs (Decidable (t = timeout))
  | duration _ | elementVisible _ | elementHidden _ | elementEnabled _ | textPresent _
  | urlContains _ => isTrue trivial

end WaitCondition

def Assertion.texts : Assertion → List String
  | textEquals s | textContains s | hasClass s => [s]
  | attributeEquals name value => [name, value]
  | _ => []

namespace Action

def targets : Action → List ℤ
  | click t _ _ | type t _ _ _ | hover t | assert t _ | select t _ _ _ | uploadFile t _ => [t]
  | scroll _ _ t => t.toList
  | wait c _ => c.targets
  | _ => []

def numbers : Action → List ℤ
  | click t _ _ | type t _ _ _ | hover t | assert t _ | uploadFile t _ => [t]
  | scroll _ n t => n :: t.toList
  | wait c n => n :: c.numbers
  | select t _ _ n => t :: n.toList
  | _ => []

def texts : Action → List String
  | type _ s _ _ | pressKey s _ | navigate s | uploadFile _ s | screenshot s _ => [s]
  | wait c _ => c.texts
  | assert _ a => a.texts
  | select _ value label _ => value.toList ++ label.toList
  | _ => []

/-- One click or two, keys and paths that are not empty, and conditions that last as long as their
wait. -/
def Coherent : Action → Prop
  | click _ _ n => n = 1 ∨ n = 2
  | wait c t => c.Lasts t
  | pressKey s _ | uploadFile _ s => s ≠ ""
  | _ => True

instance : DecidablePred Coherent
  | click _ _ n => inferInstanceAs (Decidable (n = 1 ∨ n = 2))
  | wait c t => inferInstanceAs (Decidable (c.Lasts t))
  | pressKey s _ | uploadFile _ s => inferInstanceAs (Decidable (s ≠ ""))
  | type .. | hover _ | scroll .. | navigate _ | goBack | goForward | refresh | assert ..
  | select .. | screenshot .. => isTrue trivial

end Action

end ScenarioScript
