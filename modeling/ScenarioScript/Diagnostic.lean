import ScenarioScript.Decimal

/-! Diagnostics: faults, which stop a script from passing, and cautions, which do not. -/

namespace ScenarioScript

inductive NonText
  | null | bool | int | list | record
  deriving DecidableEq, Repr

namespace Fault

inductive Cause
  | nameMissing
  | stepWithoutAction (description : String)
  | notText (value : NonText)
  | note (text : String)
  deriving DecidableEq, Repr

end Fault

structure Fault where
  line : Int
  column : Nat
  cause : Fault.Cause
  deriving DecidableEq, Repr

namespace Caution

inductive Cause
  | furtherScenario (name : String)
  | unknownPriority (word : String)
  | unclosedStep (description : String)
  | negativeRetries (description : String)
  | furtherAction (description word : String)
  | unknownAction (word : String)
  | incompleteAction (word : String)
  | note (text : String)
  deriving DecidableEq, Repr

end Caution

structure Caution where
  line : Int
  cause : Caution.Cause
  deriving DecidableEq, Repr

def NonText.typeName : NonText → String
  | null => "NoneType"
  | bool => "bool"
  | int => "int"
  | list => "list"
  | record => "dict"

def Fault.Cause.message : Fault.Cause → String
  | nameMissing => "Scenario name is required"
  | stepWithoutAction description => "Step '" ++ description ++ "' has no action"
  | notText value => "'" ++ value.typeName ++ "' object has no attribute 'splitlines'"
  | note text => text

def Caution.Cause.message : Caution.Cause → String
  | furtherScenario name => "Ignoring additional scenario '" ++ name ++ "'"
  | unknownPriority word => "Unknown priority '" ++ word ++ "', defaulting to medium"
  | unclosedStep description => "Step '" ++ description ++ "' is missing its closing brace"
  | negativeRetries description =>
    "Step '" ++ description ++ "' has negative retry count; using 0"
  | furtherAction description word =>
    "Step '" ++ description ++ "' already has an action; ignoring '" ++ word ++ "'"
  | unknownAction word => "Unknown action '" ++ word ++ "'"
  | incompleteAction word => "'" ++ word ++ "' action is missing required arguments"
  | note text => text

def Caution.message (c : Caution) : String :=
  "Line " ++ Decimal.text c.line ++ ": " ++ c.cause.message

end ScenarioScript
