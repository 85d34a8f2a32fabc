import ForwardTaint.Catalog.Standard
import ForwardTaint.FlowGraph.Builder
import ForwardTaint.Propagation.Outcome
import ForwardTaint.Report.Analysis
import ForwardTaint.Report.AnalysisError
import ForwardTaint.Settings.Settings

/-!
The analysis of compilation units.  Each procedure is analyzed on its own, against the clock and by
workers that share the procedures among them: one without a graph is reported as failed, as is one
whose signature was declared before.  What clocks show and how the workers go about it depends on the
machine, so both are given from outside.
-/

namespace ForwardTaint

namespace AnalysisError

/-- The error for settings that are refused. -/
def ofRange (error : RangeError) : AnalysisError :=
  ⟨.invalidInput, error.message, some "configuration"⟩

/-- The error for a procedure that has no graph. -/
def ofBuild (error : BuildError) : AnalysisError := ⟨.invalidInput, error.message, none⟩

/-- The error for a procedure whose signature is that of an earlier one. -/
def duplicate (unitName signature : String) (first : Nat) : AnalysisError :=
  ⟨.invalidInput, "'" ++ signature ++ "' is already declared as procedure #" ++ toString first,
    some unitName⟩

/-- The error for a procedure that is asked for and not there. -/
def noProcedure (unitName name : String) : AnalysisError :=
  ⟨.invalidInput, "no procedure named '" ++ name ++ "'", some unitName⟩

end AnalysisError

/-- A catalog with settings that are in their ranges. -/
structure Analyzer where
  catalog : Catalog
  settings : Settings
  valid : settings.validate = .ok ()

/-- The report of how propagation ended. -/
def PropagationStatus.reported : PropagationStatus → ProcedureStatus
  | .complete => .complete
  | .unstable reason => .unstable reason.text

/-- The analysis of one procedure. -/
structure ProcedureRun where
  report : ProcedureReport
  findings : List Finding
  edges : Nat
  visits : Nat
  guardEvaluations : Nat

namespace ProcedureRun

/-- The run of a procedure that is not analyzed. -/
def failed (procedure : Procedure) (error : AnalysisError) : ProcedureRun where
  report := ⟨procedure.name, procedure.signature, .failed error.message, [], 0, 0⟩
  findings := []
  edges := 0
  visits := 0
  guardEvaluations := 0

/-- The run of a procedure whose propagation has ended; barriers are reported when they are to be
explained. -/
def ended (explain : Bool) (procedure : Procedure) (graph : FlowGraph)
    (outcome : PropagationOutcome) : ProcedureRun where
  report := ⟨procedure.name, procedure.signature, outcome.status.reported,
    outcome.findings.map (ReportedFinding.ofFinding explain), graph.nodes.size, graph.guards.size⟩
  findings := outcome.findings
  edges := graph.edges.length
  visits := outcome.effort.visits
  guardEvaluations := outcome.effort.guardEvaluations

end ProcedureRun

/-- What clocks show during an analysis, all in nanoseconds: for each procedure what its budget is
compared with after so many visits and what is read again for the report, and how long everything
takes. -/
structure Timing where
  compared : Nat → Nat → Nat
  reported : Nat → Nat → Nat
  elapsed : Nat

/-- Clocks that stand still. -/
def Timing.stopped : Timing := ⟨fun _ _ => 0, fun _ _ => 0, 0⟩

/-- How workers do the work on the items of a list, each of which is known with its index, and collect
the results. -/
abbrev Collector (Item Result : Type) : Type :=
  List Item → (Nat → Item → Result) → List Result

/-- A single worker that takes the items in turn. -/
def Collector.inTurn {Item Result : Type} : Collector Item Result :=
  fun items work => items.mapIdx work

/-- The first procedure with the signature of the one at the index, if that is an earlier one. -/
def CompilationUnit.declaredBefore? (compilationUnit : CompilationUnit) (index : Nat) :
    Option Nat := do
  let signatures := compilationUnit.procedures.map Procedure.signature
  let first := signatures.idxOf (← signatures[index]?)
  if first = index then none else some first

namespace Analyzer

/-- The analyzer with the settings unless they are refused. -/
def ofSettings (catalog : Catalog) (settings : Settings) : Except AnalysisError Analyzer :=
  match valid : settings.validate with
  | .ok () => .ok ⟨catalog, settings, valid⟩
  | .error error => .error (.ofRange error)

/-- The bounds on the work on a procedure. -/
def limits (analyzer : Analyzer) : PropagationLimits where
  maxVisits := analyzer.settings.maxVisits.toNat
  maxPathLength := analyzer.settings.maxPathLength.toNat
  explainSuppressed := analyzer.settings.explainSuppressed

/-- The rules for barriers. -/
def registry (analyzer : Analyzer) : BarrierRegistry :=
  .standard ⟨analyzer.settings.caseInsensitiveDispatch⟩

/-- The deadline of the procedure at an index. -/
def deadline (analyzer : Analyzer) (timing : Timing) (index : Nat) : Deadline where
  budget := analyzer.settings.timeout?.map fun milliseconds => milliseconds.toNat * 1000000
  compared := timing.compared index
  reported := timing.reported index

/-- Analyzes one procedure before its deadline. -/
def runBefore (deadline : Deadline) (analyzer : Analyzer) (unitConstants : StringMap String)
    (procedure : Procedure) : ProcedureRun :=
  match FlowGraph.build analyzer.catalog unitConstants procedure with
  | .error error => .failed procedure (.ofBuild error)
  | .ok graph =>
      .ended analyzer.settings.explainSuppressed procedure graph
        (graph.propagateBefore deadline analyzer.registry analyzer.limits)

/-- Analyzes the procedure at an index unless its signature was declared before. -/
def runAt (analyzer : Analyzer) (timing : Timing) (compilationUnit : CompilationUnit) (index : Nat)
    (procedure : Procedure) : ProcedureRun :=
  match compilationUnit.declaredBefore? index with
  | some first =>
      .failed procedure (.duplicate compilationUnit.name procedure.signature first)
  | none =>
      analyzer.runBefore (analyzer.deadline timing index) compilationUnit.constants procedure

/-- Analyzes all procedures of a unit, by workers if the settings say so and else in turn. -/
def runs (analyzer : Analyzer) (timing : Timing) (collect : Collector Procedure ProcedureRun)
    (compilationUnit : CompilationUnit) : List ProcedureRun :=
  let work := analyzer.runAt timing compilationUnit
  if analyzer.settings.parallel then collect compilationUnit.procedures work
  else compilationUnit.procedures.mapIdx work

/-- The totals of runs. -/
def statistics (runs : List ProcedureRun) : AnalysisStatistics :=
  let total (count : ProcedureRun → Nat) : Nat := runs.foldl (fun sum run => sum + count run) 0
  let findings := runs.flatMap ProcedureRun.findings
  { proceduresAnalyzed := runs.length
    proceduresUnstable := runs.countP fun run => run.report.status.isUnstable
    proceduresFailed := runs.countP fun run => run.report.status.isFailed
    nodesAnalyzed := total fun run => run.report.nodes
    edgesAnalyzed := total ProcedureRun.edges
    nodeVisits := total ProcedureRun.visits
    guardEvaluations := total ProcedureRun.guardEvaluations
    findingsFlagged := findings.countP Finding.isFlagged
    findingsSuppressed := findings.countP fun finding => !finding.isFlagged
    milliseconds := 0 }

/-- Analyzes a unit, and measures how long it takes. -/
def execute (analyzer : Analyzer) (timing : Timing) (collect : Collector Procedure ProcedureRun)
    (compilationUnit : CompilationUnit) : AnalysisReport :=
  let runs := analyzer.runs timing collect compilationUnit
  { unitName := compilationUnit.name
    findings := runs.flatMap fun run =>
      run.findings.map (ReportedFinding.ofFinding analyzer.settings.explainSuppressed)
    procedures := runs.map ProcedureRun.report
    statistics := { statistics runs with
      milliseconds := timing.elapsed / 1000000 % UInt64.size } }

/-- Analyzes a unit while the clocks stand still. -/
def analyze (analyzer : Analyzer) (compilationUnit : CompilationUnit) : AnalysisReport :=
  analyzer.execute .stopped .inTurn compilationUnit

/-- Analyzes one procedure, however long that takes. -/
def runProcedure (analyzer : Analyzer) (unitConstants : StringMap String)
    (procedure : Procedure) : ProcedureRun :=
  analyzer.runBefore .unbounded unitConstants procedure

/-- Analyzes the first procedure of a name. -/
def analyzeProcedure (analyzer : Analyzer) (compilationUnit : CompilationUnit) (name : String) :
    Except AnalysisError ProcedureReport :=
  match compilationUnit.procedure? name with
  | some procedure => .ok (analyzer.runProcedure compilationUnit.constants procedure).report
  | none => .error (.noProcedure compilationUnit.name name)

end Analyzer

end ForwardTaint
