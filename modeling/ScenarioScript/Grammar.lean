namespace ScenarioScript.Grammar

def summaryLines : List String := [
  "## E2E DSL Syntax Reference",
  "",
  "```",
  "scenario \"Scenario Name\" \x7b",
  "    description \"What this test verifies\"",
  "    url \"https://example.com/page\"",
  "    tags [\"tag1\", \"tag2\"]",
  "    priority critical|high|medium|low",
  "",
  "    step \"Step description\" \x7b",
  "        <action>",
  "        expect \"Expected outcome\"",
  "        timeout 5000",
  "        retry 2",
  "        continueOnFailure",
  "    \x7d",
  "\x7d",
  "```",
  "",
  "Lines starting with `//` or `#` are comments. Keywords are case-insensitive.",
  "Each step holds exactly one action; `#<n>` refers to a page element.",
  "",
  "## Available Actions",
  "",
  "- click #id [left|right|middle] [double]",
  "- type #id \"text\" [clearFirst] [pressEnter]",
  "- hover #id",
  "- scroll up|down|left|right [amount] [#id]",
  "- wait duration|visible|hidden|enabled|textPresent|urlContains|pageLoaded|networkIdle [value] [timeout ms]",
  "- pressKey \"key\" [ctrl] [alt] [shift] [meta]",
  "- navigate \"url\"",
  "- goBack",
  "- goForward",
  "- refresh",
  "- assert #id visible|hidden|enabled|disabled|checked|unchecked|textEquals|textContains|attributeEquals|hasClass [value]",
  "- select #id [value \"v\"] [label \"l\"] [index n]",
  "- uploadFile #id \"path\"",
  "- screenshot \"name\" [fullPage]",
  "",
  "A `timeout` on the same line as `wait` sets the wait timeout (default 5000 ms);",
  "on its own line it sets the step timeout."]

def summary : String :=
  String.join (summaryLines.map (· ++ "\n"))

end ScenarioScript.Grammar
