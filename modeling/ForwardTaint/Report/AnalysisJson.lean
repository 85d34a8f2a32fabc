import ForwardTaint.Report.Analysis
import ForwardTaint.Report.FindingJson

/-!
The JSON form of reports.  The fields stand in a fixed order, which the written report keeps.
-/

namespace ForwardTaint

namespace ReportedStep

def toJson (step : ReportedStep) : Json :=
  .object [("kind", .string step.kind), ("text", .string step.text),
    ("location", .string step.location)]

def ofJson? (json : Json) : Option ReportedStep := do
  let fields ← json.fields? ["kind", "text", "location"]
  return ⟨← fields.required? "kind" Json.string?, ← fields.required? "text" Json.string?,
    ← fields.required? "location" Json.string?⟩

end ReportedStep

namespace ReportedBarrier

def toJson (barrier : ReportedBarrier) : Json :=
  .object [("guard", .string barrier.guard), ("branch", .boolean barrier.outcome),
    ("variable", .string barrier.variableName), ("location", .string barrier.location),
    ("rule", .string barrier.rule), ("verdict", .string barrier.verdict),
    ("rationale", .string barrier.rationale)]

def ofJson? (json : Json) : Option ReportedBarrier := do
  let fields ← json.fields?
    ["guard", "branch", "variable", "location", "rule", "verdict", "rationale"]
  return ⟨← fields.required? "guard" Json.string?, ← fields.required? "branch" Json.boolean?,
    ← fields.required? "variable" Json.string?, ← fields.required? "location" Json.string?,
    ← fields.required? "rule" Json.string?, ← fields.required? "verdict" Json.string?,
    ← fields.required? "rationale" Json.string?⟩

end ReportedBarrier

namespace ReportedFinding

def toJson (finding : ReportedFinding) : Json :=
  .object ([("procedure", .string finding.procedureName), ("verdict", finding.verdict.toJson),
    ("cwe", .string finding.weakness), ("source", finding.source.toJson),
    ("sink", finding.sink.toJson), ("path", .array (finding.path.map ReportedStep.toJson)),
    ("path_length", .ofNat finding.pathLength)]
    ++ (if finding.barriers.isEmpty then []
      else [("barriers", .array (finding.barriers.map ReportedBarrier.toJson))])
    ++ [("unstable", .boolean finding.unstable)])

def ofJson? (json : Json) : Option ReportedFinding := do
  let fields ← json.fields?
    ["procedure", "verdict", "cwe", "source", "sink", "path", "path_length", "barriers", "unstable"]
  return ⟨← fields.required? "procedure" Json.string?,
    ← fields.required? "verdict" (Json.choice? Verdict.choices),
    ← fields.required? "cwe" Json.string?, ← fields.required? "source" ReportedStep.ofJson?,
    ← fields.required? "sink" ReportedStep.ofJson?,
    ← fields.required? "path" (Json.list? ReportedStep.ofJson?),
    ← fields.required? "path_length" Json.count?,
    ← fields.orDefault? "barriers" [] (Json.list? ReportedBarrier.ofJson?),
    ← fields.orDefault? "unstable" false Json.boolean?⟩

end ReportedFinding

namespace ProcedureStatus

/-- The fields that a status adds to the record of its procedure. -/
def toFields : ProcedureStatus → List (String × Json)
  | .complete => [("status", .string "COMPLETE")]
  | .unstable reason => [("status", .string "UNSTABLE"), ("reason", .string reason)]
  | .failed error => [("status", .string "FAILED"), ("error", .string error)]

/-- Reads a status from the fields of its procedure. -/
def ofJson? (json : Json) : Option ProcedureStatus := do
  let (status, record) ← json.tagged? "status"
  match status with
  | "COMPLETE" => some .complete
  | "UNSTABLE" => (record.single? "reason" Json.string?).map .unstable
  | "FAILED" => (record.single? "error" Json.string?).map .failed
  | _ => none

end ProcedureStatus

namespace ProcedureReport

def toJson (report : ProcedureReport) : Json :=
  .object ([("name", .string report.name), ("signature", .string report.signature)]
    ++ report.status.toFields
    ++ [("findings", .array (report.findings.map ReportedFinding.toJson)),
      ("nodes", .ofNat report.nodes), ("guards", .ofNat report.guards)])

def ofJson? (json : Json) : Option ProcedureReport :=
  match json with
  | .object _ => do
      let fields ← json.fields? ["name", "signature", "findings", "nodes", "guards"]
      return ⟨← fields.required? "name" Json.string?,
        ← fields.orDefault? "signature" "" Json.string?, ← ProcedureStatus.ofJson? json,
        ← fields.required? "findings" (Json.list? ReportedFinding.ofJson?),
        ← fields.required? "nodes" Json.count?, ← fields.required? "guards" Json.count?⟩
  | _ => none

end ProcedureReport

namespace AnalysisStatistics

/-- The totals other than the elapsed time. -/
def toFields (statistics : AnalysisStatistics) : List (String × Json) :=
  [("procedures_analyzed", .ofNat statistics.proceduresAnalyzed),
    ("procedures_unstable", .ofNat statistics.proceduresUnstable),
    ("procedures_failed", .ofNat statistics.proceduresFailed),
    ("nodes_analyzed", .ofNat statistics.nodesAnalyzed),
    ("edges_analyzed", .ofNat statistics.edgesAnalyzed),
    ("node_visits", .ofNat statistics.nodeVisits),
    ("guard_evaluations", .ofNat statistics.guardEvaluations),
    ("findings_flagged", .ofNat statistics.findingsFlagged),
    ("findings_suppressed", .ofNat statistics.findingsSuppressed)]

def toJson (statistics : AnalysisStatistics) : Json :=
  .object (statistics.toFields ++ [("analysis_time_ms", .ofNat statistics.milliseconds)])

def ofJson? (json : Json) : Option AnalysisStatistics := do
  let fields ← json.fields?
    ["procedures_analyzed", "procedures_unstable", "procedures_failed", "nodes_analyzed",
      "edges_analyzed", "node_visits", "guard_evaluations", "findings_flagged",
      "findings_suppressed", "analysis_time_ms"]
  return ⟨← fields.required? "procedures_analyzed" Json.count?,
    ← fields.required? "procedures_unstable" Json.count?,
    ← fields.required? "procedures_failed" Json.count?,
    ← fields.required? "nodes_analyzed" Json.count?,
    ← fields.required? "edges_analyzed" Json.count?,
    ← fields.required? "node_visits" Json.count?,
    ← fields.required? "guard_evaluations" Json.count?,
    ← fields.required? "findings_flagged" Json.count?,
    ← fields.required? "findings_suppressed" Json.count?,
    ← fields.required? "analysis_time_ms" Json.count?⟩

end AnalysisStatistics

namespace AnalysisReport

/-- The record of a report with given totals. -/
def toJsonWith (report : AnalysisReport) (statistics : Json) : Json :=
  .object [("unit", .string report.unitName),
    ("findings", .array (report.findings.map ReportedFinding.toJson)),
    ("procedures", .array (report.procedures.map ProcedureReport.toJson)), ("stats", statistics)]

def toJson (report : AnalysisReport) : Json := report.toJsonWith report.statistics.toJson

/-- The report without the time that its making took. -/
def toJsonUntimed (report : AnalysisReport) : Json :=
  report.toJsonWith (.object report.statistics.toFields)

def ofJson? (json : Json) : Option AnalysisReport := do
  let fields ← json.fields? ["unit", "findings", "procedures", "stats"]
  return ⟨← fields.required? "unit" Json.string?,
    ← fields.required? "findings" (Json.list? ReportedFinding.ofJson?),
    ← fields.required? "procedures" (Json.list? ProcedureReport.ofJson?),
    ← fields.required? "stats" AnalysisStatistics.ofJson?⟩

end AnalysisReport

end ForwardTaint
