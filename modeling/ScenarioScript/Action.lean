namespace ScenarioScript

structure Settings where
  waitTimeout : Int := 5000
  scrollAmount : Int := 300
  screenshotName : String := "screenshot"
  logLevel : String := "WARNING"
  deriving DecidableEq, Repr

inductive MouseButton
  | left | right | middle
  deriving DecidableEq, Repr

inductive ScrollDirection
  | up | down | left | right
  deriving DecidableEq, Repr

inductive KeyModifier
  | ctrl | alt | shift | metaKey
  deriving DecidableEq, Repr

structure Modifiers where
  alt : Bool
  ctrl : Bool
  metaKey : Bool
  shift : Bool
  deriving DecidableEq, Repr

namespace Modifiers

def empty : Modifiers :=
  ⟨false, false, false, false⟩

def insert (k : KeyModifier) (m : Modifiers) : Modifiers :=
  match k with
  | .alt => { m with alt := true }
  | .ctrl => { m with ctrl := true }
  | .metaKey => { m with metaKey := true }
  | .shift => { m with shift := true }

def ofList (ks : List KeyModifier) : Modifiers :=
  ks.foldr insert empty

def toList (m : Modifiers) : List KeyModifier :=
  (if m.alt then [.alt] else []) ++ (if m.ctrl then [.ctrl] else []) ++
    (if m.metaKey then [.metaKey] else []) ++ (if m.shift then [.shift] else [])

end Modifiers

inductive WaitCondition
  | duration (ms : Int)
  | elementVisible (target : Int)
  | elementHidden (target : Int)
  | elementEnabled (target : Int)
  | textPresent (text : String)
  | urlContains (part : String)
  | pageLoaded (timeout : Int)
  | networkIdle (timeout : Int)
  deriving DecidableEq, Repr

inductive Assertion
  | visible | hidden | enabled | disabled | checked | unchecked
  | textEquals (text : String)
  | textContains (text : String)
  | attributeEquals (name value : String)
  | hasClass (className : String)
  deriving DecidableEq, Repr

inductive Action
  | click (target : Int) (button : MouseButton) (count : Int)
  | type (target : Int) (text : String) (clearFirst pressEnter : Bool)
  | hover (target : Int)
  | scroll (direction : ScrollDirection) (amount : Int) (target : Option Int)
  | wait (condition : WaitCondition) (timeout : Int)
  | pressKey (key : String) (modifiers : Modifiers)
  | navigate (url : String)
  | goBack
  | goForward
  | refresh
  | assert (target : Int) (assertion : Assertion)
  | select (target : Int) (value label : Option String) (index : Option Int)
  | uploadFile (target : Int) (path : String)
  | screenshot (name : String) (fullPage : Bool)
  deriving DecidableEq, Repr

end ScenarioScript
