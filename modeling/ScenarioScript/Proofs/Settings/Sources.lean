import Mathlib.Data.List.Basic
import Mathlib.Data.Int.Notation
import ScenarioScript.Proofs.Decimal
import ScenarioScript.Settings.Sources

namespace ScenarioScript.Settings

open Yaml (Point Value Source)

abbrev Field := Value × Value

def Form.Fits : Form → Value → Prop
  | integer, .int _ => True
  | text, .text _ => True
  | _, _ => False

def integer? (key : String) : Field → Option ℤ
  | (.text k, .int n) => if k = Point.ofText key then some n else none
  | _ => none

def text? (key : String) : Field → Option (List Point)
  | (.text k, .text ps) => if k = Point.ofText key then some ps else none
  | _ => none

def taken (g : Given) (fs : List Field) : Given where
  waitTimeout := (fs.filterMap (integer? "default_wait_timeout_ms")).getLast?.getD g.waitTimeout
  scrollAmount := (fs.filterMap (integer? "default_scroll_amount")).getLast?.getD g.scrollAmount
  name := (fs.filterMap (text? "default_screenshot_name")).getLast?.getD g.name
  level := (fs.filterMap (text? "log_level")).getLast?.getD g.level

section Fields

variable {g : Given} {f : Field} {fs : List Field} {key : String} {form : Form} {v : Value}

end Fields

section Load

variable {w : Workspace} {env : Environment} {explicit : Option Path} {fs : List Field}

end Load

end ScenarioScript.Settings
