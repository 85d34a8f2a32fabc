import ForwardTaint.Analysis.Analyzer
import ForwardTaint.Ascending
import ForwardTaint.Barrier.Evaluation
import ForwardTaint.Barrier.Literal
import ForwardTaint.Barrier.Registry
import ForwardTaint.Barrier.Rules
import ForwardTaint.Catalog.Catalog
import ForwardTaint.Catalog.Role
import ForwardTaint.Catalog.Spec
import ForwardTaint.Catalog.Standard
import ForwardTaint.Catalog.Text
import ForwardTaint.CommandLine.Command
import ForwardTaint.CommandLine.Help
import ForwardTaint.CommandLine.Run
import ForwardTaint.FlowGraph.Builder
import ForwardTaint.FlowGraph.Draft
import ForwardTaint.FlowGraph.Graph
import ForwardTaint.FlowGraph.Lowering
import ForwardTaint.FlowGraph.Node
import ForwardTaint.FlowGraph.NodeJson
import ForwardTaint.Guard.Alias
import ForwardTaint.Guard.Condition
import ForwardTaint.Guard.Decomposition
import ForwardTaint.Guard.Json
import ForwardTaint.Json.Number
import ForwardTaint.Json.Parser
import ForwardTaint.Json.Printer
import ForwardTaint.Json.Record
import ForwardTaint.Json.Value
import ForwardTaint.Main
import ForwardTaint.Names
import ForwardTaint.Pattern.Matching
import ForwardTaint.Pattern.Parser
import ForwardTaint.Pattern.Syntax
import ForwardTaint.Program.Expr
import ForwardTaint.Program.Json
import ForwardTaint.Program.Procedure
import ForwardTaint.Program.Span
import ForwardTaint.Program.Stmt
import ForwardTaint.Proofs.RuleDispatch
import ForwardTaint.Proofs.TaintOrder
import ForwardTaint.Propagation.Deadline
import ForwardTaint.Propagation.Outcome
import ForwardTaint.Propagation.Path
import ForwardTaint.Propagation.Run
import ForwardTaint.Propagation.Transfer
import ForwardTaint.Report.Analysis
import ForwardTaint.Report.AnalysisError
import ForwardTaint.Report.AnalysisJson
import ForwardTaint.Report.Finding
import ForwardTaint.Report.FindingJson
import ForwardTaint.Settings.Configuration
import ForwardTaint.Settings.Json
import ForwardTaint.Settings.Settings
import ForwardTaint.StringMap
import ForwardTaint.Taint.Check
import ForwardTaint.Taint.Json
import ForwardTaint.Taint.State
import ForwardTaint.Taint.Value
import ForwardTaint.Text.Affix
import ForwardTaint.Text.CaseOrbit
import ForwardTaint.Text.CharClass
import ForwardTaint.Text.DotSegments
import ForwardTaint.Text.Letters
import ForwardTaint.Text.Lowercase
import ForwardTaint.Text.LowercaseTable
import ForwardTaint.Text.Percent
import ForwardTaint.Text.Printable
import ForwardTaint.Text.Quoted
import ForwardTaint.Text.WordClasses
import ForwardTaint.Yaml.Cursor
import ForwardTaint.Yaml.Meaning
import ForwardTaint.Yaml.Parser
import ForwardTaint.Yaml.Printer
import ForwardTaint.Yaml.Record
import ForwardTaint.Yaml.Scalar
import ForwardTaint.Yaml.Token
import ForwardTaint.Yaml.Value
import ForwardTaint.Proofs.EffectiveGuards
import ForwardTaint.Proofs.TransferMonotone
import ForwardTaint.Proofs.WorkList
import ForwardTaint.Proofs.LeastSolution
import ForwardTaint.Proofs.DraftGrowth
import ForwardTaint.Proofs.GraphConstruction
import ForwardTaint.Proofs.OpenPaths
import ForwardTaint.Proofs.ReportedFlows
import ForwardTaint.Proofs.Outlines
import ForwardTaint.Proofs.OutlineBindings
import ForwardTaint.Proofs.OutlineConstruction
import ForwardTaint.Proofs.ControlPaths
import ForwardTaint.Proofs.Places
import ForwardTaint.Proofs.HandlerStarts
import ForwardTaint.Proofs.Evaluation
import ForwardTaint.Proofs.TestOutcomes
import ForwardTaint.Proofs.AliasTables
import ForwardTaint.Proofs.FlagBindings
import ForwardTaint.Proofs.FlagValues
import ForwardTaint.Proofs.SuppressedFlows
import ForwardTaint.Proofs.AbandonedFlows
import ForwardTaint.Proofs.StricterRules
import ForwardTaint.Proofs.VisitBounds
import ForwardTaint.Proofs.ExecutionOrder
import ForwardTaint.Proofs.Explanations
import ForwardTaint.Proofs.Isolation
import ForwardTaint.Proofs.RecordedChecks
import ForwardTaint.Proofs.DraftOrder
import ForwardTaint.Proofs.GraphOrder
import ForwardTaint.Proofs.HoistedTests
import ForwardTaint.Proofs.LoopWrites
import ForwardTaint.Proofs.GuardVerdicts
import ForwardTaint.Proofs.PathSegments
import ForwardTaint.Proofs.SmallLetters
import ForwardTaint.Proofs.SanitizedChecks
import ForwardTaint.Proofs.ShortestWays
import ForwardTaint.Proofs.ReportedPaths
import ForwardTaint.Proofs.SinkEntries
import ForwardTaint.Proofs.QueryOperands
import ForwardTaint.Proofs.ForwardReturns
import ForwardTaint.Proofs.TaintLattice
import ForwardTaint.Proofs.LoopHeads
import ForwardTaint.Proofs.NegationNormalForm
import ForwardTaint.Proofs.FlagAgreement
import ForwardTaint.Proofs.CanonicalLiterals
import ForwardTaint.Proofs.VacuousPrefixes
import ForwardTaint.Proofs.NamedReports
import ForwardTaint.Proofs.Nesting
import ForwardTaint.Proofs.ConstructionEnds
import ForwardTaint.Proofs.BuildFailures
import ForwardTaint.Proofs.RegistrationOrder
import ForwardTaint.Proofs.ReportTotals
import ForwardTaint.Proofs.RecordForms
import ForwardTaint.Proofs.ProgramForms
import ForwardTaint.Proofs.PlainScalars
import ForwardTaint.Proofs.QuotedScalars
import ForwardTaint.Proofs.BlockScalars
import ForwardTaint.Proofs.PrintableText
import ForwardTaint.Proofs.LexerSteps
import ForwardTaint.Proofs.PrintedMappings
import ForwardTaint.Proofs.PrintedRecords
import ForwardTaint.Proofs.SavedConfigurations
import ForwardTaint.Proofs.ReachabilityDuality
