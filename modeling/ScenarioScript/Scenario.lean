import ScenarioScript.Action
import ScenarioScript.SortedSet

namespace ScenarioScript

inductive Priority
  | critical | high | medium | low
  deriving DecidableEq, Repr

structure Step where
  id : String
  description : String
  action : Action
  expected : Option String
  timeout : Option Int
  retries : Int
  continueOnFailure : Bool
  deriving DecidableEq, Repr

structure Scenario where
  id : String
  name : String
  description : String
  startUrl : String
  steps : List Step
  tags : SortedSet String
  priority : Priority
  deriving DecidableEq

end ScenarioScript
