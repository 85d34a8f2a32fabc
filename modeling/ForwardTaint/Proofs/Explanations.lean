import ForwardTaint.Proofs.ExecutionOrder
import ForwardTaint.Proofs.SuppressedFlows

/-!
Explanations of suppressed flows add to a report and change nothing else.  A report without them is the
report with them less all findings that are not flagged.
-/

namespace ForwardTaint

namespace Finding

/-- Findings of different pairs are left in the same order when some are left out. -/
theorem sorted_filter {findings : List Finding} (distinct : (findings.map ends).Nodup)
    (keep : Finding → Bool) : sorted (findings.filter keep) = (sorted findings).filter keep := by
  have fewer : ((findings.filter keep).map ends).Nodup :=
    distinct.sublist (List.filter_sublist.map _)
  have permuted : (sorted (findings.filter keep)).Perm ((sorted findings).filter keep) :=
    (List.mergeSort_perm _ _).trans ((List.mergeSort_perm _ _).filter keep).symm
  apply permuted.eq_of_pairwise _ (sorted_strict fewer) ((sorted_strict distinct).filter keep)
  intro first second _ _ before behind
  have around : List.Lex (· < ·) first.sortKey first.sortKey :=
    List.lex_trans Nat.lt_trans before behind
  exact absurd around (List.lex_irrefl Nat.lt_irrefl _)

end Finding

/-- The bounds with suppressed flows explained or not. -/
def PropagationLimits.explaining (explain : Bool) (limits : PropagationLimits) :
    PropagationLimits :=
  { limits with explainSuppressed := explain }

/-- The outcome less the flows that barriers stop. -/
def PropagationOutcome.unexplained (outcome : PropagationOutcome) : PropagationOutcome :=
  { outcome with findings := outcome.findings.filter Finding.isFlagged }

namespace FlowGraph

variable {graph : FlowGraph} {registry : BarrierRegistry} {limits : PropagationLimits}
  {deadline : Deadline}

/-- A sink that is not explained is found if it is flagged. -/
theorem sinkFinding_explaining (run : SourceRun) (reachable : Array Bool) (sink : Nat) :
    graph.sinkFinding? (limits.explaining false) run reachable sink =
      (graph.sinkFinding? limits run reachable sink).filter Finding.isFlagged := by
  unfold sinkFinding?
  simp only [PropagationLimits.explaining]
  by_cases tainted : (run.values.joined (graph.sinkArguments sink)).isTainted = true
  · rw [if_pos tainted, if_pos tainted]
    rfl
  · rw [if_neg tainted, if_neg tainted]
    cases limits.explainSuppressed with
    | true => rfl
    | false => rfl

theorem findingsOf_explaining (run : SourceRun) :
    graph.findingsOf (limits.explaining false) run =
      (graph.findingsOf limits run).filter Finding.isFlagged := by
  unfold findingsOf
  rw [List.filter_filterMap]
  apply List.filterMap_congr
  intro sink _
  exact sinkFinding_explaining run _ sink

/-- All that is reported when propagation is given up is flagged. -/
theorem filter_reachabilityFindings (sources : List Nat) :
    (sources.flatMap (graph.reachabilityFindings limits)).filter Finding.isFlagged =
      sources.flatMap (graph.reachabilityFindings limits) := by
  rw [List.filter_eq_self]
  intro found member
  obtain ⟨source, -, isFinding⟩ := List.mem_flatMap.1 member
  obtain ⟨sink, -, rfl⟩ := mem_reachabilityFindings.1 isFinding
  rfl

/-- Propagation without explanations comes out as with them, less the flows that barriers stop. -/
theorem propagateBefore_explaining (wellFormed : graph.IsWellFormed) :
    graph.propagateBefore deadline registry (limits.explaining false) =
      (graph.propagateBefore deadline registry limits).unexplained := by
  unfold propagateBefore PropagationOutcome.unexplained
  simp only [PropagationLimits.explaining]
  cases ran : graph.runFromBefore deadline registry limits.maxVisits graph.sources .none with
  | ok finished =>
      obtain ⟨runs, effort⟩ := finished
      have distinct : (runs.map SourceRun.seed).Nodup :=
        (reaches_of_runFromBefore ran).1 ▸ wellFormed.sources.nodup
      simp only [PropagationOutcome.mk.injEq, and_true]
      -- No two findings are of one pair, so what is left out does not reorder the rest.
      rw [← Finding.sorted_filter (nodup_ends wellFormed distinct), List.filter_flatMap]
      congr 1
      exact List.flatMap_congr fun run _ => findingsOf_explaining run
  | error interruption =>
      have distinct : (graph.sources.map id).Nodup := by
        rw [List.map_id]
        exact wellFormed.sources.nodup
      simp only [PropagationOutcome.mk.injEq, and_true]
      have ends := nodup_ends_flatMap wellFormed distinct (ends_reachabilityFindings graph limits)
      rw [← Finding.sorted_filter ends, filter_reachabilityFindings]
      rfl

/-- A flow that is flagged has no barriers. -/
theorem barriers_of_flagged {found : Finding}
    (member : found ∈ (graph.propagateBefore deadline registry limits).findings)
    (flagged : found.isFlagged = true) : found.barriers = [] := by
  rcases propagateBefore_cases deadline graph registry limits with ⟨complete, -⟩ | ⟨-, findings⟩
  · obtain ⟨run, -, -, -, sink, -, isFound⟩ := run_of_mem_findings complete member
    rcases sinkFinding_cases isFound with ⟨-, rfl⟩ | ⟨-, -, rfl⟩
    · rfl
    · exact nomatch flagged
  · rw [findings, Finding.mem_sorted, List.mem_flatMap] at member
    obtain ⟨source, -, isFinding⟩ := member
    obtain ⟨sink, -, rfl⟩ := mem_reachabilityFindings.1 isFinding
    rfl

end FlowGraph

/-- The report less the flows that barriers stop. -/
def ProcedureReport.unexplained (report : ProcedureReport) : ProcedureReport :=
  { report with findings := report.findings.filter ReportedFinding.isFlagged }

/-- The run less the flows that barriers stop. -/
def ProcedureRun.unexplained (run : ProcedureRun) : ProcedureRun :=
  { run with report := run.report.unexplained, findings := run.findings.filter Finding.isFlagged }

/-- The report less the flows that barriers stop. -/
def AnalysisReport.unexplained (report : AnalysisReport) : AnalysisReport where
  unitName := report.unitName
  findings := report.flagged
  procedures := report.procedures.map ProcedureReport.unexplained
  statistics := { report.statistics with findingsSuppressed := 0 }

/-- The second of two reports on a unit lacks the suppressed flows that the first one explains, and but
for the time nothing else. -/
structure AnalysisReport.Explains (explained plain : AnalysisReport) : Prop where
  unitName : plain.unitName = explained.unitName
  flagged : plain.flagged = explained.flagged
  hasFlagged : plain.hasFlagged = explained.hasFlagged
  statuses : plain.procedures.map ProcedureReport.status =
    explained.procedures.map ProcedureReport.status
  procedures : plain.procedures = explained.procedures.map ProcedureReport.unexplained
  statistics : { plain.statistics with findingsSuppressed := 0, milliseconds := 0 } =
    { explained.statistics with findingsSuppressed := 0, milliseconds := 0 }
  noneSuppressed : plain.statistics.findingsSuppressed = 0
  onlyFlagged : ∀ finding ∈ plain.findings, finding.isFlagged = true ∧ finding.barriers = []
  onlyFlaggedInReports : ∀ report ∈ plain.procedures, ∀ finding ∈ report.findings,
    finding.isFlagged = true ∧ finding.barriers = []

/-- Where flagged findings have no barriers, explaining does not change how they are reported. -/
theorem ReportedFinding.filter_map_ofFinding {findings : List Finding}
    (noBarriers : ∀ found ∈ findings, found.isFlagged = true → found.barriers = [])
    (explain : Bool) :
    (findings.map (ofFinding explain)).filter isFlagged =
      (findings.filter Finding.isFlagged).map (ofFinding false) := by
  rw [List.filter_map]
  apply List.map_congr_left
  intro found member
  obtain ⟨isFound, flagged⟩ := List.mem_filter.1 member
  simp [ofFinding, noBarriers found isFound flagged]

/-- Findings that are reported without explanations have no barriers. -/
theorem ReportedFinding.barriers_of_mem_map {findings : List Finding} {finding : ReportedFinding}
    (member : finding ∈ findings.map (ofFinding false)) : finding.barriers = [] := by
  obtain ⟨found, -, rfl⟩ := List.mem_map.1 member
  rfl

/-- The run for an outcome less the flows that barriers stop. -/
theorem ProcedureRun.ended_unexplained {outcome : PropagationOutcome}
    (noBarriers : ∀ found ∈ outcome.findings, found.isFlagged = true → found.barriers = [])
    (explain : Bool) (procedure : Procedure) (graph : FlowGraph) :
    ended false procedure graph outcome.unexplained =
      (ended explain procedure graph outcome).unexplained := by
  simp only [ended, unexplained, ProcedureReport.unexplained, PropagationOutcome.unexplained,
    ReportedFinding.filter_map_ofFinding noBarriers explain]

namespace Analyzer

variable {analyzer : Analyzer} {collect : Collector Procedure ProcedureRun}

/-- The analyzer with suppressed flows explained or not. -/
def explaining (explain : Bool) (analyzer : Analyzer) : Analyzer :=
  ⟨analyzer.catalog, { analyzer.settings with explainSuppressed := explain }, analyzer.valid⟩

theorem runBefore_explaining (deadline : Deadline) (unitConstants : StringMap String)
    (procedure : Procedure) :
    (analyzer.explaining false).runBefore deadline unitConstants procedure =
      (analyzer.runBefore deadline unitConstants procedure).unexplained := by
  unfold runBefore
  have sameCatalog : (analyzer.explaining false).catalog = analyzer.catalog := rfl
  have sameRegistry : (analyzer.explaining false).registry = analyzer.registry := rfl
  have limits : (analyzer.explaining false).limits = analyzer.limits.explaining false := rfl
  rw [sameCatalog, sameRegistry, limits]
  cases built : FlowGraph.build analyzer.catalog unitConstants procedure with
  | error error => rfl
  | ok graph =>
      have wellFormed := FlowGraph.isWellFormed_of_build built
      simp only [FlowGraph.propagateBefore_explaining wellFormed]
      exact ProcedureRun.ended_unexplained (fun _ member => FlowGraph.barriers_of_flagged member)
        analyzer.settings.explainSuppressed procedure graph

theorem runAt_explaining (timing : Timing) (compilationUnit : CompilationUnit) (index : Nat)
    (procedure : Procedure) :
    (analyzer.explaining false).runAt timing compilationUnit index procedure =
      (analyzer.runAt timing compilationUnit index procedure).unexplained := by
  unfold runAt
  cases compilationUnit.declaredBefore? index with
  | some first => rfl
  | none => exact runBefore_explaining _ compilationUnit.constants procedure

theorem runs_explaining (keepsOrder : collect.KeepsOrder) (timing : Timing)
    (compilationUnit : CompilationUnit) :
    (analyzer.explaining false).runs timing collect compilationUnit =
      (analyzer.runs timing collect compilationUnit).map ProcedureRun.unexplained := by
  rw [runs_eq_mapIdx keepsOrder, runs_eq_mapIdx keepsOrder]
  apply List.ext_getElem?
  intro index
  rw [List.getElem?_map, List.getElem?_mapIdx, List.getElem?_mapIdx, Option.map_map]
  exact Option.map_congr fun procedure _ => runAt_explaining timing compilationUnit index procedure

theorem statistics_unexplained (runs : List ProcedureRun) :
    statistics (runs.map ProcedureRun.unexplained) =
      { statistics runs with findingsSuppressed := 0 } := by
  have findings : (runs.map ProcedureRun.unexplained).flatMap ProcedureRun.findings =
      (runs.flatMap ProcedureRun.findings).filter Finding.isFlagged := by
    rw [List.flatMap_map, List.filter_flatMap]
    rfl
  unfold statistics
  simp only [findings, List.length_map, List.countP_map, List.foldl_map, List.countP_filter]
  simp [Function.comp_def, ProcedureRun.unexplained, ProcedureReport.unexplained]

/-- A unit is analyzed without explanations as with them, less the flows that barriers stop. -/
theorem execute_explaining (keepsOrder : collect.KeepsOrder) (timing : Timing)
    (compilationUnit : CompilationUnit) :
    (analyzer.explaining false).execute timing collect compilationUnit =
      (analyzer.execute timing collect compilationUnit).unexplained := by
  have runs : (analyzer.explaining false).runs timing collect compilationUnit =
      (analyzer.runs timing collect compilationUnit).map ProcedureRun.unexplained :=
    runs_explaining keepsOrder timing compilationUnit
  unfold execute AnalysisReport.unexplained
  simp only [runs, statistics_unexplained, AnalysisReport.flagged, AnalysisReport.mk.injEq, true_and,
    and_true]
  constructor
  · rw [List.flatMap_map, List.filter_flatMap]
    refine List.flatMap_congr fun run member => ?_
    -- Both runs report what they find, and the one without explanations reports what is flagged.
    have plain : run.unexplained ∈ (analyzer.explaining false).runs timing collect compilationUnit :=
      runs ▸ List.mem_map_of_mem member
    exact (findings_of_mem_runs keepsOrder plain).symm.trans
      (congrArg (List.filter ReportedFinding.isFlagged) (findings_of_mem_runs keepsOrder member))
  · rw [List.map_map, List.map_map]
    rfl

/-- Without a budget of time that is so whatever clocks show and workers do, but for the time that is
stated. -/
theorem execute_explaining_untimed (untimed : analyzer.settings.timeout? = none)
    {otherCollect : Collector Procedure ProcedureRun} (keepsOrder : collect.KeepsOrder)
    (otherKeepsOrder : otherCollect.KeepsOrder) (timing otherTiming : Timing)
    (compilationUnit : CompilationUnit) :
    (analyzer.explaining false).execute otherTiming otherCollect compilationUnit =
      { (analyzer.execute timing collect compilationUnit).unexplained with
        statistics := { (analyzer.execute timing collect compilationUnit).unexplained.statistics with
          milliseconds := otherTiming.elapsed / 1000000 % UInt64.size } } := by
  have plain : (analyzer.explaining false).settings.timeout? = none := untimed
  have less : (analyzer.explaining false).analyze compilationUnit =
      (analyzer.analyze compilationUnit).unexplained :=
    execute_explaining Collector.keepsOrder_inTurn .stopped compilationUnit
  rw [execute_untimed plain otherKeepsOrder, execute_untimed untimed keepsOrder, less]
  rfl

/-- Without explanations no finding has barriers, neither in the report nor under its procedure. -/
theorem barriers_execute_explaining (analyzer : Analyzer) (keepsOrder : collect.KeepsOrder)
    (timing : Timing) (compilationUnit : CompilationUnit) :
    (∀ finding ∈ ((analyzer.explaining false).execute timing collect compilationUnit).findings,
      finding.barriers = []) ∧
    ∀ report ∈ ((analyzer.explaining false).execute timing collect compilationUnit).procedures,
      ∀ finding ∈ report.findings, finding.barriers = [] := by
  constructor
  · intro finding member
    obtain ⟨run, -, found⟩ := List.mem_flatMap.1 member
    exact ReportedFinding.barriers_of_mem_map found
  · intro report member finding found
    obtain ⟨run, isRun, rfl⟩ := List.mem_map.1 member
    rw [findings_of_mem_runs keepsOrder isRun] at found
    exact ReportedFinding.barriers_of_mem_map found

/-- With and without explanations of suppressed flows a unit has the same flagged findings, statuses and
totals, whatever clocks show and workers do; without them nothing else is found. -/
theorem execute_explains (analyzer : Analyzer) (untimed : analyzer.settings.timeout? = none)
    {collect otherCollect : Collector Procedure ProcedureRun} (keepsOrder : collect.KeepsOrder)
    (otherKeepsOrder : otherCollect.KeepsOrder) (timing otherTiming : Timing)
    (compilationUnit : CompilationUnit) :
    ((analyzer.explaining true).execute timing collect compilationUnit).Explains
      ((analyzer.explaining false).execute otherTiming otherCollect compilationUnit) := by
  have explained : (analyzer.explaining true).settings.timeout? = none := untimed
  have less : (analyzer.explaining false).execute otherTiming otherCollect compilationUnit = _ :=
    execute_explaining_untimed explained keepsOrder otherKeepsOrder timing otherTiming compilationUnit
  have noBarriers := analyzer.barriers_execute_explaining otherKeepsOrder otherTiming compilationUnit
  rw [less] at noBarriers ⊢
  obtain ⟨noBarriers, noBarriersInReports⟩ := noBarriers
  constructor
  · rfl
  · simp [AnalysisReport.flagged, AnalysisReport.unexplained]
  · simp [AnalysisReport.hasFlagged, AnalysisReport.flagged, AnalysisReport.unexplained]
  · exact List.map_map
  · rfl
  · rfl
  · rfl
  · exact fun finding member => ⟨(List.mem_filter.1 member).2, noBarriers finding member⟩
  · intro report member finding found
    refine ⟨?_, noBarriersInReports report member finding found⟩
    obtain ⟨other, -, rfl⟩ := List.mem_map.1 member
    exact (List.mem_filter.1 found).2

end Analyzer

namespace NestedSources

def compilationUnit : CompilationUnit := ⟨"servlet", .empty, [procedure]⟩

/-- A clock that advances by a millisecond from visit to visit. -/
def timing : Timing :=
  ⟨fun _ visits => visits * 1000000, fun _ visits => visits * 1000000, 3000000⟩

/-- One of the two flows of the procedure is suppressed, and only an explanation shows it. -/
theorem execute_explains_suppressed :
    DecodingLoop.analyzer.settings.timeout? = none ∧
    (Collector.backwards : Collector Procedure ProcedureRun).KeepsOrder ∧
    ((DecodingLoop.analyzer.explaining true).execute timing .backwards compilationUnit).Explains
      ((DecodingLoop.analyzer.explaining false).execute timing .backwards compilationUnit) ∧
    ((DecodingLoop.analyzer.explaining true).execute timing .backwards compilationUnit).findings.map
      ReportedFinding.verdict = [.suppressedByBarrier, .flagged] ∧
    ((DecodingLoop.analyzer.explaining false).execute timing .backwards compilationUnit).findings.map
      ReportedFinding.verdict = [.flagged] := by
  have keepsOrder := @Collector.keepsOrder_backwards Procedure ProcedureRun
  have explains := Analyzer.execute_explains DecodingLoop.analyzer rfl keepsOrder keepsOrder timing
    timing compilationUnit
  have explained : ((DecodingLoop.analyzer.explaining true).execute timing .backwards
      compilationUnit).findings.map ReportedFinding.verdict = [.suppressedByBarrier, .flagged] := by
    cbv
  have plain : ((DecodingLoop.analyzer.explaining false).execute timing .backwards
      compilationUnit).findings.map ReportedFinding.verdict = [.flagged] := by
    cbv
  exact ⟨rfl, keepsOrder, explains, explained, plain⟩

end NestedSources

end ForwardTaint
