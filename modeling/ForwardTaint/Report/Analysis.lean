import ForwardTaint.Report.Finding

/-!
Reports for readers: findings with places as text, one report for each procedure, and the totals
of a unit.
-/

namespace ForwardTaint

/-- A step of a path as it is reported. -/
structure ReportedStep where
  kind : String
  text : String
  location : String
  deriving DecidableEq

namespace ReportedStep

def ofStep (step : PathStep) : ReportedStep := ⟨step.kind, step.text, step.span.text⟩

/-- The step on one line. -/
def line (step : ReportedStep) : String := "\x60" ++ step.text ++ "\x60 @" ++ step.location

end ReportedStep

/-- A barrier as it is reported. -/
structure ReportedBarrier where
  guard : String
  outcome : Bool
  variableName : String
  location : String
  rule : String
  verdict : String
  rationale : String
  deriving DecidableEq

namespace ReportedBarrier

def ofBarrier (barrier : AppliedBarrier) : ReportedBarrier where
  guard := barrier.guardText
  outcome := barrier.outcome
  variableName := barrier.variableName
  location := barrier.span.text
  rule := barrier.evaluation.rule.id
  verdict := barrier.evaluation.verdict.text
  rationale := barrier.evaluation.rationale

/-- The barrier on one line. -/
def line (barrier : ReportedBarrier) : String :=
  "    barrier \x60" ++ barrier.guard ++ "\x60 [" ++ (if barrier.outcome then "true" else "false")
    ++ "] on " ++ barrier.variableName ++ " @" ++ barrier.location ++ ": " ++ barrier.rule ++ " "
    ++ barrier.verdict ++ ": " ++ barrier.rationale ++ "\n"

end ReportedBarrier

/-- A finding as it is reported. -/
structure ReportedFinding where
  procedureName : String
  verdict : Verdict
  weakness : String
  source : ReportedStep
  sink : ReportedStep
  path : List ReportedStep
  pathLength : Nat
  barriers : List ReportedBarrier
  unstable : Bool
  deriving DecidableEq

namespace ReportedFinding

/-- The finding in its reported form; barriers are kept when they are to be explained. -/
def ofFinding (explain : Bool) (finding : Finding) : ReportedFinding where
  procedureName := finding.procedureName
  verdict := finding.verdict
  weakness := "CWE-552"
  source := .ofStep finding.source
  sink := .ofStep finding.sink
  path := finding.path.map .ofStep
  pathLength := finding.path.length
  barriers := if explain then finding.barriers.map .ofBarrier else []
  unstable := finding.unstable

def isFlagged (finding : ReportedFinding) : Bool := finding.verdict == .flagged

/-- The finding in words. -/
def text (explain : Bool) (finding : ReportedFinding) : String :=
  "[" ++ (if finding.isFlagged then "FLAGGED" else "SUPPRESSED") ++ "]"
    ++ (if finding.unstable then " (unstable)" else "") ++ " " ++ finding.weakness ++ " in "
    ++ finding.procedureName ++ ": " ++ finding.source.line ++ " -> " ++ finding.sink.line
    ++ "\n    path: " ++ String.intercalate " -> " (finding.path.map ReportedStep.line) ++ "\n"
    ++ (if explain then String.join (finding.barriers.map ReportedBarrier.line) else "")

end ReportedFinding

/-- How the analysis of a procedure ended: with all flows judged, given up with the findings of
the fallback, or without a graph. -/
inductive ProcedureStatus where
  | complete
  | unstable (reason : String)
  | failed (error : String)
  deriving DecidableEq

namespace ProcedureStatus

def isComplete (status : ProcedureStatus) : Bool := status == .complete

def isUnstable : ProcedureStatus → Bool
  | .unstable _ => true
  | _ => false

def isFailed : ProcedureStatus → Bool
  | .failed _ => true
  | _ => false

end ProcedureStatus

/-- The report of one procedure. -/
structure ProcedureReport where
  name : String
  signature : String
  status : ProcedureStatus
  findings : List ReportedFinding
  nodes : Nat
  guards : Nat
  deriving DecidableEq

namespace ProcedureReport

/-- The signature when there is one, and else the name. -/
def label (report : ProcedureReport) : String :=
  if report.signature.isEmpty then report.name else report.signature

/-- The line on a procedure that was not analyzed to the end. -/
def statusLine (report : ProcedureReport) : String :=
  match report.status with
  | .complete => ""
  | .unstable reason => "\n[UNSTABLE] " ++ report.label ++ ": " ++ reason ++ "\n"
  | .failed error => "\n[FAILED] " ++ report.label ++ ": " ++ error ++ "\n"

end ProcedureReport

/-- The totals of an analysis. -/
structure AnalysisStatistics where
  proceduresAnalyzed : Nat
  proceduresUnstable : Nat
  proceduresFailed : Nat
  nodesAnalyzed : Nat
  edgesAnalyzed : Nat
  nodeVisits : Nat
  guardEvaluations : Nat
  findingsFlagged : Nat
  findingsSuppressed : Nat
  milliseconds : Nat
  deriving DecidableEq

/-- The report of a compilation unit. -/
structure AnalysisReport where
  unitName : String
  findings : List ReportedFinding
  procedures : List ProcedureReport
  statistics : AnalysisStatistics
  deriving DecidableEq

namespace AnalysisReport

/-- The findings that are flagged. -/
def flagged (report : AnalysisReport) : List ReportedFinding :=
  report.findings.filter ReportedFinding.isFlagged

def hasFlagged (report : AnalysisReport) : Bool := report.findings.any ReportedFinding.isFlagged

/-- The first report of a procedure of the name. -/
def procedure? (report : AnalysisReport) (name : String) : Option ProcedureReport :=
  report.procedures.find? fun procedure => procedure.name == name

/-- The report in words. -/
def text (explain : Bool) (report : AnalysisReport) : String :=
  let statistics := report.statistics
  "forwardscan: " ++ report.unitName ++ "\n  procedures: "
    ++ toString statistics.proceduresAnalyzed ++ " (" ++ toString statistics.proceduresUnstable
    ++ " unstable, " ++ toString statistics.proceduresFailed ++ " failed)\n  findings:   "
    ++ toString statistics.findingsFlagged ++ " flagged, "
    ++ toString statistics.findingsSuppressed ++ " suppressed\n"
    ++ String.join (report.procedures.map ProcedureReport.statusLine)
    ++ String.join (report.findings.map fun finding => "\n" ++ finding.text explain)

end AnalysisReport

end ForwardTaint
