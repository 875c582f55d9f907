import ScenarioScript.Proofs.Cursor
import ScenarioScript.Main
import ScenarioScript.Proofs.Report
import ScenarioScript.Proofs.Script.Defaults
import ScenarioScript.Proofs.Script.DiagnosticOrder
import ScenarioScript.Proofs.Script.File
import ScenarioScript.Proofs.Script.Isolation
import ScenarioScript.Proofs.Script.Layout
import ScenarioScript.Proofs.Script.Reordering
import ScenarioScript.Proofs.Script.Respelled
import ScenarioScript.Proofs.Script.RoundTrip
import ScenarioScript.Proofs.Script.Safe
import ScenarioScript.Proofs.Script.StepAccount
import ScenarioScript.Sketch.Check
import ScenarioScript.Proofs.Script.Numbers
import ScenarioScript.Proofs.Command.Run
import ScenarioScript.Proofs.Yaml.Enclosed
import ScenarioScript.Proofs.Yaml.Place
import ScenarioScript.Proofs.Yaml.Symbols
import ScenarioScript.Proofs.Yaml.Scalars
import ScenarioScript.Proofs.Yaml.Permitted
import ScenarioScript.Proofs.Document.Tree
import ScenarioScript.Proofs.Document.Value
import ScenarioScript.Proofs.Scenario.Yaml
import ScenarioScript.Proofs.Block.Extent
import ScenarioScript.Proofs.Span
import ScenarioScript.Proofs.Arguments.Named
import ScenarioScript.Proofs.Sketch
import ScenarioScript.Proofs.Report.Truthful
import ScenarioScript.Proofs.Walk.Quotation
import ScenarioScript.Proofs.Walk.Settled
import ScenarioScript.Proofs.Arguments.AnyOrder
import ScenarioScript.Proofs.Arguments.Dispatch
import ScenarioScript.Proofs.Lexeme.Form
import ScenarioScript.Proofs.Lexeme.Number
import ScenarioScript.Proofs.Script.TagList
import ScenarioScript.Proofs.Sketch.Verdict
import ScenarioScript.Proofs.Settings.Sources
