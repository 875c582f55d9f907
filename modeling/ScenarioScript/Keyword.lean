namespace ScenarioScript

inductive Keyword
  | scenario | description | url | tags | priority | step
  | expect | timeout | retry | continueOnFailure
  | click | type | hover | scroll | wait | pressKey | navigate | goBack | goForward | refresh
  | assert | select | uploadFile | screenshot
  | clearFirst | pressEnter | fullPage | double
  | left | right | middle | up | down
  | ctrl | alt | shift | metaKey
  | duration | visible | hidden | enabled | textPresent | urlContains | pageLoaded | networkIdle
  | disabled | checked | unchecked | textEquals | textContains | attributeEquals | hasClass
  | critical | high | medium | low
  | value | label | index
  deriving DecidableEq, Repr

namespace Keyword

def all : List Keyword :=
  [scenario, description, url, tags, priority, step,
   expect, timeout, retry, continueOnFailure,
   click, type, hover, scroll, wait, pressKey, navigate, goBack, goForward, refresh,
   assert, select, uploadFile, screenshot,
   clearFirst, pressEnter, fullPage, double,
   left, right, middle, up, down,
   ctrl, alt, shift, metaKey,
   duration, visible, hidden, enabled, textPresent, urlContains, pageLoaded, networkIdle,
   disabled, checked, unchecked, textEquals, textContains, attributeEquals, hasClass,
   critical, high, medium, low,
   value, label, index]

def spelling : Keyword → String
  | scenario => "scenario"
  | description => "description"
  | url => "url"
  | tags => "tags"
  | priority => "priority"
  | step => "step"
  | expect => "expect"
  | timeout => "timeout"
  | retry => "retry"
  | continueOnFailure => "continueOnFailure"
  | click => "click"
  | type => "type"
  | hover => "hover"
  | scroll => "scroll"
  | wait => "wait"
  | pressKey => "pressKey"
  | navigate => "navigate"
  | goBack => "goBack"
  | goForward => "goForward"
  | refresh => "refresh"
  | assert => "assert"
  | select => "select"
  | uploadFile => "uploadFile"
  | screenshot => "screenshot"
  | clearFirst => "clearFirst"
  | pressEnter => "pressEnter"
  | fullPage => "fullPage"
  | double => "double"
  | left => "left"
  | right => "right"
  | middle => "middle"
  | up => "up"
  | down => "down"
  | ctrl => "ctrl"
  | alt => "alt"
  | shift => "shift"
  | metaKey => "meta"
  | duration => "duration"
  | visible => "visible"
  | hidden => "hidden"
  | enabled => "enabled"
  | textPresent => "textPresent"
  | urlContains => "urlContains"
  | pageLoaded => "pageLoaded"
  | networkIdle => "networkIdle"
  | disabled => "disabled"
  | checked => "checked"
  | unchecked => "unchecked"
  | textEquals => "textEquals"
  | textContains => "textContains"
  | attributeEquals => "attributeEquals"
  | hasClass => "hasClass"
  | critical => "critical"
  | high => "high"
  | medium => "medium"
  | low => "low"
  | value => "value"
  | label => "label"
  | index => "index"

/-- A character without its case, as far as keywords need it: besides the ASCII capitals only the
Kelvin sign has a small form that occurs in a keyword. -/
def foldCase (c : Char) : Char :=
  if c = '\u212a' then 'k' else c.toLower

def folded (s : String) : List Char :=
  s.toList.map foldCase

def ofText? (s : String) : Option Keyword :=
  all.find? fun k => folded k.spelling == folded s

def isAction : Keyword → Bool
  | click | type | hover | scroll | wait | pressKey | navigate | goBack | goForward | refresh
  | assert | select | uploadFile | screenshot => true
  | _ => false

def isStepSetting : Keyword → Bool
  | expect | timeout | retry | continueOnFailure => true
  | _ => false

end Keyword

end ScenarioScript
