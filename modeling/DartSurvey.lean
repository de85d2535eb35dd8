import DartSurvey.Json.Parser
import DartSurvey.Log
import DartSurvey.Report.Decode
import DartSurvey.Report.Extract
import DartSurvey.Report.Render
import DartSurvey.Exclude.Rule
import DartSurvey.Text.Newline
import DartSurvey.Tree.Convert
import DartSurvey.Dart.Parser
import DartSurvey.Scan.Inspector
import DartSurvey.SettingsFile
import DartSurvey.CommandLine.Run
import DartSurvey.Main
import DartSurvey.Proofs.Disk.Below
import DartSurvey.Proofs.Scan.Encounter
import DartSurvey.Proofs.Scan.Script
import DartSurvey.Proofs.Scan.Lazy
import DartSurvey.Proofs.Scan.Pruning
import DartSurvey.Proofs.Json.RoundTrip
import DartSurvey.Proofs.Dart.Head
import DartSurvey.Proofs.Report.JsonLines
import DartSurvey.Proofs.Text.Utf8
import DartSurvey.Proofs.Tree.InsertedComment
import DartSurvey.Proofs.Report.Extraction
import DartSurvey.Proofs.Disk.PathText
import DartSurvey.Proofs.Scan.Distinct
import DartSurvey.Proofs.Scan.Drain
import DartSurvey.Proofs.Report.Headings
import DartSurvey.Proofs.Disk.Direct
import DartSurvey.Proofs.CommandLine.Plan
import DartSurvey.Proofs.Settings.Loading
import DartSurvey.Proofs.CommandLine.Ending
import DartSurvey.Proofs.CommandLine.SettingsProblem
import DartSurvey.Proofs.Tree.Locality
import DartSurvey.Proofs.Disk.Storable
import DartSurvey.Proofs.Scan.Coverage
import DartSurvey.Proofs.Disk.Shape
import DartSurvey.Proofs.Scan.Influence
import DartSurvey.Proofs.Scan.Session
import DartSurvey.Proofs.Dart.Literal
import DartSurvey.Proofs.Dart.TypeLayout
import DartSurvey.Proofs.Dart.Word
import DartSurvey.Proofs.Dart.Comments
import DartSurvey.Proofs.Tree.FieldHead
import DartSurvey.Proofs.Text.WholeChars
import DartSurvey.Proofs.Tree.DeferredImport
import DartSurvey.Proofs.Dart.PrimitiveTypes
import DartSurvey.Proofs.Report.Filters
import DartSurvey.Proofs.Report.Equivalence
import DartSurvey.Proofs.Report.Shapes
import DartSurvey.Proofs.Report.Stability
import DartSurvey.Proofs.Tree.OutermostFaults
import DartSurvey.Proofs.Settings.Options
import DartSurvey.Proofs.Settings.Merging
import DartSurvey.Proofs.Report.Runs
import DartSurvey.Proofs.Scan.LineEnds
import DartSurvey.Proofs.Exclude.Patterns
import DartSurvey.Proofs.Scan.Obstacles
import DartSurvey.Proofs.Scan.Composition
import DartSurvey.Proofs.Scan.LiteralPatterns
import DartSurvey.Proofs.Tree.Ranges
import DartSurvey.Proofs.Dart.CommentRemoval
import DartSurvey.Proofs.Dart.Interpolation
import DartSurvey.Proofs.Tree.TypeName
