import ForwardTaint.Proofs.Explanations
import ForwardTaint.Proofs.NamedReports

/-!
What adds up in a report on a unit.  The status of each procedure fits its findings, the findings of the
unit are those of its procedures in turn, and every total counts what the report lists.  This holds
whatever clocks show, also when a procedure runs out of time.
-/

namespace ForwardTaint

/-- The status of a run fits what it found: if propagation was given up, all findings are flagged and
marked, if it came to an end, none is marked, and a procedure without a graph has none. -/
structure ProcedureRun.IsCoherent (run : ProcedureRun) : Prop where
  unstable : run.report.status.isUnstable = true →
    ∀ found ∈ run.findings, found.verdict = .flagged ∧ found.unstable = true
  complete : run.report.status.isComplete = true → ∀ found ∈ run.findings, found.unstable = false
  failed : run.report.status.isFailed = true → run.findings = [] ∧ run.report.nodes = 0

/-- The report lists one report for each procedure of the unit, in order, which is the one of its run,
and the findings of these in turn; its totals count what it lists, and each status fits the findings under
it. -/
structure AnalysisReport.AccountsFor (report : AnalysisReport) (analyzer : Analyzer)
    (timing : Timing) (compilationUnit : CompilationUnit) : Prop where
  runs : report.procedures = compilationUnit.procedures.mapIdx fun index procedure =>
    (analyzer.runAt timing compilationUnit index procedure).report
  procedures : report.procedures.map (fun procedure => (procedure.name, procedure.signature)) =
    compilationUnit.procedures.map fun procedure => (procedure.name, procedure.signature)
  findings : report.findings = report.procedures.flatMap ProcedureReport.findings
  flagged : report.statistics.findingsFlagged =
    report.findings.countP fun finding => finding.verdict == .flagged
  suppressed : report.statistics.findingsSuppressed =
    report.findings.countP fun finding => finding.verdict == .suppressedByBarrier
  hasFlagged : report.hasFlagged = true ↔ 0 < report.statistics.findingsFlagged
  analyzed : report.statistics.proceduresAnalyzed = report.procedures.length
  unstable : report.statistics.proceduresUnstable =
    report.procedures.countP fun procedure => procedure.status.isUnstable
  failed : report.statistics.proceduresFailed =
    report.procedures.countP fun procedure => procedure.status.isFailed
  nodes : report.statistics.nodesAnalyzed = (report.procedures.map ProcedureReport.nodes).sum
  unstableFindings : ∀ procedure ∈ report.procedures, procedure.status.isUnstable = true →
    ∀ finding ∈ procedure.findings, finding.verdict = .flagged ∧ finding.unstable = true
  completeFindings : ∀ procedure ∈ report.procedures, procedure.status.isComplete = true →
    ∀ finding ∈ procedure.findings, finding.unstable = false
  failedReports : ∀ procedure ∈ report.procedures, procedure.status.isFailed = true →
    procedure.findings = [] ∧ procedure.nodes = 0

namespace FlowGraph

variable {graph : FlowGraph} {registry : BarrierRegistry} {limits : PropagationLimits}
  {deadline : Deadline}

/-- Findings are marked exactly if propagation was given up, and then they are flagged. -/
theorem marked_of_mem_findings {found : Finding}
    (member : found ∈ (graph.propagateBefore deadline registry limits).findings) :
    ((graph.propagateBefore deadline registry limits).status = .complete →
      found.unstable = false) ∧
    ((graph.propagateBefore deadline registry limits).status ≠ .complete →
      found.verdict = .flagged ∧ found.unstable = true) := by
  rcases propagateBefore_cases deadline graph registry limits with
    ⟨complete, same⟩ | ⟨unstable, findings⟩
  · refine ⟨fun _ => ?_, fun gaveUp => absurd complete gaveUp⟩
    rw [same] at member complete
    obtain ⟨run, -, -, -, sink, -, isFound⟩ := run_of_mem_findings complete member
    rcases sinkFinding_cases isFound with ⟨-, rfl⟩ | ⟨-, -, rfl⟩
    · rfl
    · rfl
  · refine ⟨fun complete => ?_, fun _ => ?_⟩
    · simp [PropagationOutcome.isUnstable, complete] at unstable
    · rw [findings, Finding.mem_sorted, List.mem_flatMap] at member
      obtain ⟨source, -, isFinding⟩ := member
      obtain ⟨sink, -, rfl⟩ := mem_reachabilityFindings.1 isFinding
      exact ⟨rfl, rfl⟩

end FlowGraph

namespace ProcedureRun

theorem isCoherent_failed (procedure : Procedure) (error : AnalysisError) :
    (failed procedure error).IsCoherent := by
  constructor
  · exact nofun
  · exact nofun
  · exact fun _ => ⟨rfl, rfl⟩

theorem isCoherent_ended (explain : Bool) (procedure : Procedure) (graph : FlowGraph)
    (deadline : Deadline) (registry : BarrierRegistry) (limits : PropagationLimits) :
    (ended explain procedure graph
      (graph.propagateBefore deadline registry limits)).IsCoherent := by
  have marked {found : Finding} := @FlowGraph.marked_of_mem_findings graph registry limits deadline
    found
  simp only [ended]
  cases status : (graph.propagateBefore deadline registry limits).status with
  | complete =>
      constructor
      · intro isUnstable; cases isUnstable
      · exact fun _ found member => (marked member).1 status
      · intro isFailed; cases isFailed
  | unstable reason =>
      have gaveUp : (graph.propagateBefore deadline registry limits).status ≠ .complete := by
        rw [status]
        intro isComplete
        cases isComplete
      constructor
      · exact fun _ found member => (marked member).2 gaveUp
      · intro isComplete; cases isComplete
      · intro isFailed; cases isFailed

end ProcedureRun

/-- Each reported finding has the verdict and the mark of the one that it reports. -/
theorem ReportedFinding.exists_of_mem_map {findings : List Finding} {explain : Bool}
    {finding : ReportedFinding} (member : finding ∈ findings.map (ofFinding explain)) :
    ∃ found ∈ findings, finding.verdict = found.verdict ∧ finding.unstable = found.unstable := by
  obtain ⟨found, isThere, rfl⟩ := List.mem_map.1 member
  exact ⟨found, isThere, rfl, rfl⟩

/-- A finding that is not flagged is suppressed. -/
theorem Finding.isFlagged_eq_false_iff {finding : Finding} :
    finding.isFlagged = false ↔ finding.verdict = .suppressedByBarrier := by
  cases isVerdict : finding.verdict <;> simp [isFlagged, isVerdict]

namespace Analyzer

variable {analyzer : Analyzer} {compilationUnit : CompilationUnit} {timing : Timing}
  {collect : Collector Procedure ProcedureRun}

theorem isCoherent_runAt (index : Nat) (procedure : Procedure) :
    (analyzer.runAt timing compilationUnit index procedure).IsCoherent := by
  rcases analyzer.runAt_cases timing compilationUnit index procedure with
    ⟨error, failed⟩ | ⟨graph, -, ended⟩
  · rw [failed]
    exact ProcedureRun.isCoherent_failed _ _
  · rw [ended]
    exact ProcedureRun.isCoherent_ended _ _ _ _ _ _

theorem isCoherent_of_mem_runs (keepsOrder : collect.KeepsOrder) {run : ProcedureRun}
    (member : run ∈ analyzer.runs timing collect compilationUnit) : run.IsCoherent := by
  rw [runs_eq_mapIdx keepsOrder, List.mem_mapIdx] at member
  obtain ⟨index, inside, rfl⟩ := member
  exact isCoherent_runAt _ _

theorem signature_runAt (index : Nat) (procedure : Procedure) :
    (analyzer.runAt timing compilationUnit index procedure).report.signature =
      procedure.signature := by
  rcases analyzer.runAt_cases timing compilationUnit index procedure with
    ⟨error, failed⟩ | ⟨graph, -, ended⟩
  · rw [failed]
    rfl
  · rw [ended]
    rfl

/-- The findings of the unit are those of all runs in their reported form. -/
theorem findings_execute (analyzer : Analyzer) (timing : Timing)
    (collect : Collector Procedure ProcedureRun) (compilationUnit : CompilationUnit) :
    (analyzer.execute timing collect compilationUnit).findings =
      ((analyzer.runs timing collect compilationUnit).flatMap ProcedureRun.findings).map
        (ReportedFinding.ofFinding analyzer.settings.explainSuppressed) := by
  rw [List.map_flatMap]
  rfl

/-- A sum that is made from left to right. -/
theorem foldl_add_eq_sum (runs : List ProcedureRun) (count : ProcedureRun → Nat) (start : Nat) :
    runs.foldl (fun sum run => sum + count run) start = start + (runs.map count).sum := by
  induction runs generalizing start with
  | nil => rfl
  | cons run runs inductionHypothesis =>
      rw [List.foldl_cons, inductionHypothesis, List.map_cons, List.sum_cons, Nat.add_assoc]

/-- The report on each procedure is that of its run. -/
theorem procedures_execute (keepsOrder : collect.KeepsOrder) :
    (analyzer.execute timing collect compilationUnit).procedures =
      compilationUnit.procedures.mapIdx fun index procedure =>
        (analyzer.runAt timing compilationUnit index procedure).report := by
  apply List.ext_getElem?
  intro index
  rw [List.getElem?_mapIdx]
  cases present : compilationUnit.procedures[index]? with
  | none =>
      have outside := List.getElem?_eq_none_iff.1 present
      exact List.getElem?_eq_none ((length_procedures keepsOrder).trans_le outside)
  | some procedure => exact getElem?_procedures keepsOrder present

/-- Each procedure has its report, in the order of the unit. -/
theorem map_signature_execute (keepsOrder : collect.KeepsOrder) :
    (analyzer.execute timing collect compilationUnit).procedures.map
        (fun report => (report.name, report.signature)) =
      compilationUnit.procedures.map fun procedure => (procedure.name, procedure.signature) := by
  rw [procedures_execute keepsOrder]
  apply List.ext_getElem?
  intro index
  rw [List.getElem?_map, List.getElem?_map, List.getElem?_mapIdx]
  cases compilationUnit.procedures[index]? with
  | none => rfl
  | some procedure => simp only [Option.map_some, name_runAt, signature_runAt]

theorem findingsFlagged_execute :
    (analyzer.execute timing collect compilationUnit).statistics.findingsFlagged =
      (analyzer.execute timing collect compilationUnit).findings.countP
        fun finding => finding.verdict == .flagged := by
  rw [findings_execute, List.countP_map]
  rfl

theorem findingsSuppressed_execute :
    (analyzer.execute timing collect compilationUnit).statistics.findingsSuppressed =
      (analyzer.execute timing collect compilationUnit).findings.countP
        fun finding => finding.verdict == .suppressedByBarrier := by
  rw [findings_execute, List.countP_map]
  refine List.countP_congr fun found _ => ?_
  rw [Bool.not_eq_true', Finding.isFlagged_eq_false_iff]
  exact beq_iff_eq.symm

/-- Each report tells of a run whose status fits its findings. -/
theorem exists_run_of_mem_procedures (keepsOrder : collect.KeepsOrder) {report : ProcedureReport}
    (member : report ∈ (analyzer.execute timing collect compilationUnit).procedures) :
    ∃ run : ProcedureRun, run.IsCoherent ∧ run.report = report ∧
      report.findings =
        run.findings.map (ReportedFinding.ofFinding analyzer.settings.explainSuppressed) := by
  obtain ⟨run, isRun, rfl⟩ := List.mem_map.1 member
  exact ⟨run, isCoherent_of_mem_runs keepsOrder isRun, rfl, findings_of_mem_runs keepsOrder isRun⟩

/-- A report loses and invents nothing: what it lists is what the runs of the procedures have, its totals
count that, and how each procedure ended fits its findings. -/
theorem execute_accountsFor (analyzer : Analyzer) {collect : Collector Procedure ProcedureRun}
    (keepsOrder : collect.KeepsOrder) (timing : Timing) (compilationUnit : CompilationUnit) :
    (analyzer.execute timing collect compilationUnit).AccountsFor analyzer timing
      compilationUnit := by
  constructor
  · exact procedures_execute keepsOrder
  · exact map_signature_execute keepsOrder
  · rw [execute, List.flatMap_map]
    exact List.flatMap_congr fun run member => (findings_of_mem_runs keepsOrder member).symm
  · exact findingsFlagged_execute
  · exact findingsSuppressed_execute
  · rw [findingsFlagged_execute, List.countP_pos_iff, AnalysisReport.hasFlagged, List.any_eq_true]
    simp only [ReportedFinding.isFlagged]
  · exact (List.length_map ..).symm
  · simp only [execute, List.countP_map]
    rfl
  · simp only [execute, List.countP_map]
    rfl
  · have sum := foldl_add_eq_sum (analyzer.runs timing collect compilationUnit)
      (fun run => run.report.nodes) 0
    rw [Nat.zero_add] at sum
    simp only [execute, List.map_map]
    exact sum
  all_goals
    intro report member
    obtain ⟨run, coherent, rfl, findings⟩ := exists_run_of_mem_procedures keepsOrder member
    rw [findings]
    intro status
  · intro finding isThere
    obtain ⟨found, isFound, verdict, mark⟩ := ReportedFinding.exists_of_mem_map isThere
    rw [verdict, mark]
    exact coherent.unstable status found isFound
  · intro finding isThere
    obtain ⟨found, isFound, -, mark⟩ := ReportedFinding.exists_of_mem_map isThere
    rw [mark]
    exact coherent.complete status found isFound
  · obtain ⟨noFindings, noNodes⟩ := coherent.failed status
    rw [noFindings]
    exact ⟨rfl, noNodes⟩

end Analyzer

/-! A unit in which one procedure is analyzed to its end, the next one needs too many visits, and the last
one repeats the first. -/

namespace MixedUnit

def analyzer : Analyzer := ⟨DecodingLoop.catalog, ⟨4, 0, true, false, true, 10⟩, rfl⟩

/-- A procedure with a single flow. -/
def single : Procedure :=
  { Procedure.named "include" with
    body := [.evaluate (.localCall "forward" [.localCall "getParameter" []]) .zero] }

def singleGraph : FlowGraph where
  procedureName := "include"
  nodes := #[⟨.sourceCall, "getParameter()", .zero, none⟩,
    ⟨.sinkCall [0], "forward(getParameter())", .zero, none⟩]
  edges := [⟨0, 1, .plain (.argument 0)⟩]
  guards := #[]
  sources := [0]
  sinks := [1]

def compilationUnit : CompilationUnit :=
  ⟨"servlet", .empty, [single, NestedSources.procedure, single]⟩

theorem build_single : FlowGraph.build DecodingLoop.catalog .empty single = .ok singleGraph := by
  cbv

/-- How propagation ends for the procedure at an index. -/
def outcome (index : Nat) (graph : FlowGraph) : PropagationOutcome :=
  graph.propagateBefore (analyzer.deadline NestedSources.timing index) analyzer.registry
    ⟨4, 10, true⟩

theorem runs_eq : analyzer.runs NestedSources.timing .backwards compilationUnit =
    [.ended true single singleGraph (outcome 0 singleGraph),
      .ended true NestedSources.procedure NestedSources.graph (outcome 1 NestedSources.graph),
      .failed single (.duplicate "servlet" "include()" 0)] := by
  have first : compilationUnit.declaredBefore? 0 = none := by cbv
  have second : compilationUnit.declaredBefore? 1 = none := by cbv
  have repeated : compilationUnit.declaredBefore? 2 = some 0 := by cbv
  rw [Analyzer.runs_eq_mapIdx Collector.keepsOrder_backwards]
  change [analyzer.runAt _ _ 0 single, analyzer.runAt _ _ 1 NestedSources.procedure,
    analyzer.runAt _ _ 2 single] = _
  unfold Analyzer.runAt
  simp only [first, second, repeated, Analyzer.runBefore]
  simp only [compilationUnit, analyzer, build_single, NestedSources.build_eq]
  rfl

/-- Too few visits flag both flows of the second procedure, and the repetition adds nothing. -/
theorem execute_accountsFor_each :
    (Collector.backwards : Collector Procedure ProcedureRun).KeepsOrder ∧
    (analyzer.execute NestedSources.timing .backwards compilationUnit).AccountsFor analyzer
      NestedSources.timing compilationUnit ∧
    (analyzer.execute NestedSources.timing .backwards compilationUnit).procedures.map (fun report =>
        (report.status, report.findings.map ReportedFinding.verdict)) =
      [(.complete, [.flagged]),
        (.unstable (UnstableReason.iterationLimit 4).text, [.flagged, .flagged]),
        (.failed "'include()' is already declared as procedure #0", [])] := by
  have keepsOrder := @Collector.keepsOrder_backwards Procedure ProcedureRun
  have accounts := analyzer.execute_accountsFor keepsOrder NestedSources.timing compilationUnit
  have complete : (outcome 0 singleGraph).status = .complete := by cbv
  have unstable : (outcome 1 NestedSources.graph).status = .unstable (.iterationLimit 4) := by cbv
  have single : (outcome 0 singleGraph).findings.map Finding.verdict = [.flagged] := by cbv
  have both : (outcome 1 NestedSources.graph).findings.map Finding.verdict =
      [.flagged, .flagged] := by cbv
  refine ⟨keepsOrder, accounts, ?_⟩
  have reported (findings : List Finding) :
      (findings.map (ReportedFinding.ofFinding true)).map ReportedFinding.verdict =
        findings.map Finding.verdict := List.map_map
  unfold Analyzer.execute
  simp only [runs_eq, List.map_cons, List.map_nil, ProcedureRun.ended, ProcedureRun.failed, complete,
    unstable, reported, single, both]
  rfl

end MixedUnit

end ForwardTaint
