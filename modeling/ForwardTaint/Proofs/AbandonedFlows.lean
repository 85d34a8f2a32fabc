import ForwardTaint.Proofs.ReportedFlows

/-!
Which flows are reported when propagation is given up: all those that taint could take if nothing
stopped it.  So no limit, no rule and no clock hides a flow that would be reported otherwise.
-/

namespace ForwardTaint

/-- What is done before the deadline comes out as without one, unless the deadline is found to have
passed after the visits that were made. -/
def Deadline.Bounds {Result : Type} (deadline : Deadline)
    (timed untimed : Except Interruption Result) : Prop :=
  timed = untimed ∨ ∃ milliseconds effort, deadline.passed? effort.visits = some milliseconds ∧
    timed = .error ⟨.timeout milliseconds, effort⟩

theorem Deadline.passed?_of_unbounded {deadline : Deadline} (unbounded : deadline.budget = none)
    (visits : Nat) : deadline.passed? visits = none := by
  rw [passed?, unbounded]
  rfl

namespace Deadline.Bounds

variable {deadline : Deadline} {Result Next : Type}

theorem refl (result : Except Interruption Result) : deadline.Bounds result result := .inl rfl

theorem bind {timed untimed : Except Interruption Result}
    {timedNext untimedNext : Result → Except Interruption Next}
    (first : deadline.Bounds timed untimed)
    (next : ∀ result, deadline.Bounds (timedNext result) (untimedNext result)) :
    deadline.Bounds (timed >>= timedNext) (untimed >>= untimedNext) := by
  rcases first with rfl | ⟨milliseconds, effort, passed, rfl⟩
  · cases timed with
    | error interruption => exact .inl rfl
    | ok result => exact next result
  · exact .inr ⟨milliseconds, effort, passed, rfl⟩

/-- What comes to an end before the deadline does so without one. -/
theorem ok {untimed : Except Interruption Result} {result : Result}
    (bounds : deadline.Bounds (.ok result) untimed) : untimed = .ok result := by
  rcases bounds with same | ⟨milliseconds, effort, -, late⟩
  · exact same.symm
  · exact nomatch late

/-- Where no budget is set, nothing is late. -/
theorem eq_of_unbounded {timed untimed : Except Interruption Result}
    (bounds : deadline.Bounds timed untimed) (unbounded : deadline.budget = none) :
    timed = untimed := by
  rcases bounds with same | ⟨milliseconds, effort, passed, -⟩
  · exact same
  · rw [passed?_of_unbounded unbounded] at passed
    exact nomatch passed

end Deadline.Bounds

namespace SourceRun

theorem settleBefore_bounds (deadline : Deadline) (graph : FlowGraph) (registry : BarrierRegistry)
    (budget : Nat) (run : SourceRun) (effort : Effort) :
    deadline.Bounds (settleBefore deadline graph registry budget run effort)
      (settleBefore .unbounded graph registry budget run effort) := by
  fun_induction settleBefore deadline graph registry budget run effort with
  | case1 budget run effort done =>
      rw [settleBefore_done done]
      exact .refl _
  | case2 run effort number pending chosen =>
      rw [settleBefore_spent chosen]
      exact .refl _
  | case3 run effort number pending chosen budget absent inductionHypothesis =>
      rw [settleBefore_skip chosen absent]
      exact inductionHypothesis
  | case4 run effort number pending chosen budget node present milliseconds passed =>
      exact .inr ⟨milliseconds, _, passed, rfl⟩
  | case5 run effort number pending chosen budget node present inTime inductionHypothesis =>
      rw [settleBefore_visit chosen present (Deadline.passed?_of_unbounded rfl _)]
      refine .bind (.refl _) ?_
      rintro ⟨next, nextEffort⟩
      exact inductionHypothesis next nextEffort

end SourceRun

namespace FlowGraph

variable {graph : FlowGraph} {registry : BarrierRegistry} {limits : PropagationLimits}
  {deadline : Deadline}

theorem runFromBefore_bounds (deadline : Deadline) (graph : FlowGraph) (registry : BarrierRegistry)
    (maxVisits : Nat) (sources : List Nat) (effort : Effort) :
    deadline.Bounds (graph.runFromBefore deadline registry maxVisits sources effort)
      (graph.runFromBefore .unbounded registry maxVisits sources effort) := by
  induction sources generalizing effort with
  | nil => exact .refl _
  | cons source sources inductionHypothesis =>
      unfold runFromBefore
      refine .bind (SourceRun.settleBefore_bounds deadline graph registry _ _ effort) ?_
      rintro ⟨run, afterFirst⟩
      exact .bind (inductionHypothesis afterFirst) fun _ => .refl _

/-- Without a budget of time the clock does not matter. -/
theorem propagateBefore_unbounded (unbounded : deadline.budget = none) :
    graph.propagateBefore deadline registry limits = graph.propagate registry limits := by
  have same := (runFromBefore_bounds deadline graph registry limits.maxVisits graph.sources
    .none).eq_of_unbounded unbounded
  unfold propagate propagateBefore
  simp only [same]

/-- Propagation comes to an end as it does without a clock, or all that can be reached is reported. -/
theorem propagateBefore_cases (deadline : Deadline) (graph : FlowGraph) (registry : BarrierRegistry)
    (limits : PropagationLimits) :
    ((graph.propagateBefore deadline registry limits).status = .complete ∧
      graph.propagateBefore deadline registry limits = graph.propagate registry limits) ∨
    ((graph.propagateBefore deadline registry limits).isUnstable = true ∧
      (graph.propagateBefore deadline registry limits).findings =
        Finding.sorted (graph.sources.flatMap (graph.reachabilityFindings limits))) := by
  have bounds := runFromBefore_bounds deadline graph registry limits.maxVisits graph.sources .none
  unfold propagate propagateBefore
  simp only
  cases ran : graph.runFromBefore deadline registry limits.maxVisits graph.sources .none with
  | ok finished =>
      rw [ran] at bounds
      refine .inl ⟨rfl, ?_⟩
      simp only [bounds.ok]
  | error interruption => exact .inr ⟨rfl, rfl⟩

theorem mem_reachabilityFindings {source : Nat} {found : Finding} :
    found ∈ graph.reachabilityFindings limits source ↔
      ∃ sink ∈ graph.sinksWithin (graph.reachableFrom source),
        graph.finding limits source sink
          (fun node => (graph.reachableFrom source).getD node false) .flagged [] true = found := by
  rw [reachabilityFindings, List.mem_map]

/-- The pairs of the findings for a source are pairs of it and the sinks in turn. -/
theorem ends_reachabilityFindings (graph : FlowGraph) (limits : PropagationLimits) (source : Nat) :
    ((graph.reachabilityFindings limits source).map Finding.ends).Sublist
      (graph.sinks.map (Prod.mk source)) := by
  have ends : (graph.reachabilityFindings limits source).map Finding.ends =
      (graph.sinksWithin (graph.reachableFrom source)).map (Prod.mk source) := by
    rw [reachabilityFindings, List.map_map]
    exact List.map_congr_left fun sink _ => ends_finding source sink _ _ _ _
  rw [ends]
  exact List.filter_sublist.map _

/-- Taint gets from a source to a checked argument of a sink if nothing stops it. -/
def Connects (graph : FlowGraph) (source sink : Nat) : Prop :=
  source ∈ graph.sources ∧ sink ∈ graph.sinks ∧
    ∃ argument ∈ graph.sinkArguments sink, graph.TaintPath source argument

/-- The sinks that are looked at for a source are those that it is connected with. -/
theorem mem_sinksWithin_iff_connects (wellFormed : graph.IsWellFormed) {source sink : Nat}
    (isSource : source ∈ graph.sources) :
    sink ∈ graph.sinksWithin (graph.reachableFrom source) ↔ graph.Connects source sink := by
  have lookedAt : sink ∈ graph.sinksWithin (graph.reachableFrom source) ↔
      sink ∈ graph.sinks ∧ graph.IsFlow (.start graph source) sink :=
    @mem_sinksWithin_reachableFrom graph wellFormed (.start graph source) isSource sink
  exact lookedAt.trans (and_iff_right isSource).symm

/-- One unstable flagged finding for each source and sink that are connected, in the strict order of
keys, and nothing else. -/
structure IsFallback (graph : FlowGraph) (outcome : PropagationOutcome) : Prop where
  single {source sink : Nat} : graph.Connects source sink →
    ∃ finding, outcome.between source sink = [finding]
  connected : ∀ finding ∈ outcome.findings,
    graph.Connects finding.source.node finding.sink.node
  flagged : ∀ finding ∈ outcome.findings, finding.verdict = .flagged ∧ finding.unstable = true
  ordered : outcome.findings.Pairwise fun first second =>
    List.Lex (· < ·) first.sortKey second.sortKey

/-- What is reported when propagation is given up. -/
theorem isFallback_of_findings (wellFormed : graph.IsWellFormed) {outcome : PropagationOutcome}
    (findings : outcome.findings =
      Finding.sorted (graph.sources.flatMap (graph.reachabilityFindings limits))) :
    graph.IsFallback outcome := by
  have distinctSources : (graph.sources.map id).Nodup := by
    rw [List.map_id]
    exact wellFormed.sources.nodup
  have distinct := nodup_ends_flatMap wellFormed distinctSources
    (ends_reachabilityFindings graph limits)
  have permuted : outcome.findings.Perm
      (graph.sources.flatMap (graph.reachabilityFindings limits)) := by
    rw [findings]
    exact List.mergeSort_perm _ _
  have behind {found : Finding} (member : found ∈ outcome.findings) :
      graph.Connects found.source.node found.sink.node ∧ found.verdict = .flagged ∧
        found.unstable = true := by
    rw [permuted.mem_iff, List.mem_flatMap] at member
    obtain ⟨source, isSource, isFinding⟩ := member
    obtain ⟨sink, lookedAt, rfl⟩ := mem_reachabilityFindings.1 isFinding
    obtain ⟨sourceEnd, sinkEnd⟩ := Prod.mk.inj (ends_finding source sink _ _ _ _)
    rw [sourceEnd, sinkEnd]
    exact ⟨(mem_sinksWithin_iff_connects wellFormed isSource).1 lookedAt, rfl, rfl⟩
  constructor
  · intro source sink connects
    have lookedAt := (mem_sinksWithin_iff_connects wellFormed connects.1).2 connects
    obtain ⟨found, isFound⟩ : ∃ found, graph.finding limits source sink
        (fun node => (graph.reachableFrom source).getD node false) .flagged [] true = found :=
      ⟨_, rfl⟩
    have member : found ∈ outcome.findings := by
      rw [permuted.mem_iff, List.mem_flatMap]
      exact ⟨source, connects.1, mem_reachabilityFindings.2 ⟨sink, lookedAt, isFound⟩⟩
    have ends : found.ends = (source, sink) := by
      rw [← isFound]
      exact ends_finding source sink _ _ _ _
    refine ⟨found, ?_⟩
    rw [PropagationOutcome.between, ← ends]
    exact Finding.filter_eq_singleton ((permuted.map Finding.ends).nodup_iff.2 distinct) member
  · exact fun finding member => (behind member).1
  · exact fun finding member => (behind member).2
  · rw [findings]
    exact Finding.sorted_strict distinct

/-- Whatever is reported, taint can get from the source to the sink. -/
theorem connects_of_mem_findings (wellFormed : graph.IsWellFormed) {finding : Finding}
    (member : finding ∈ (graph.propagateBefore deadline registry limits).findings) :
    graph.Connects finding.source.node finding.sink.node := by
  rcases propagateBefore_cases deadline graph registry limits with
    ⟨complete, -⟩ | ⟨-, findings⟩
  · obtain ⟨run, isSource, -, -, sink, lookedAt, isFound⟩ := run_of_mem_findings complete member
    obtain ⟨sourceEnd, sinkEnd⟩ := Prod.mk.inj (ends_sinkFinding isFound)
    rw [sourceEnd, sinkEnd]
    exact (mem_sinksWithin_iff_connects wellFormed isSource).1 lookedAt
  · exact (isFallback_of_findings wellFormed findings).connected finding member

/-- Propagation that is given up reports each source and sink between which taint can flow once,
flagged and unstable, in the strict order of keys, and nothing else.  All that another propagation
through the graph reports is among that, whatever its rules, its limits and its clock. -/
theorem propagateBefore_falls_back {catalog : Catalog} {unitConstants : StringMap String}
    {procedure : Procedure} {graph : FlowGraph}
    (built : FlowGraph.build catalog unitConstants procedure = .ok graph)
    (deadline : Deadline) (registry : BarrierRegistry) (limits : PropagationLimits)
    (unstable : (graph.propagateBefore deadline registry limits).isUnstable = true) :
    graph.IsFallback (graph.propagateBefore deadline registry limits) ∧
    ∀ (otherDeadline : Deadline) (otherRegistry : BarrierRegistry) (otherLimits : PropagationLimits),
      ∀ other ∈ (graph.propagateBefore otherDeadline otherRegistry otherLimits).findings,
        ∃ finding ∈ (graph.propagateBefore deadline registry limits).findings,
          finding.ends = other.ends := by
  have wellFormed := isWellFormed_of_build built
  have isFallback : graph.IsFallback (graph.propagateBefore deadline registry limits) := by
    rcases propagateBefore_cases deadline graph registry limits with
      ⟨complete, -⟩ | ⟨-, findings⟩
    · rw [PropagationOutcome.isUnstable, complete] at unstable
      exact nomatch unstable
    · exact isFallback_of_findings wellFormed findings
  refine ⟨isFallback, ?_⟩
  intro otherDeadline otherRegistry otherLimits other member
  obtain ⟨finding, only⟩ := isFallback.single (connects_of_mem_findings wellFormed member)
  have isBetween : finding ∈ (graph.propagateBefore deadline registry limits).between
      other.source.node other.sink.node := by
    rw [only]
    exact List.mem_singleton_self finding
  obtain ⟨isFinding, same⟩ := List.mem_filter.1 isBetween
  exact ⟨finding, isFinding, beq_iff_eq.1 same⟩

/-- The loop that decodes a path is given up after one visit, with the flow to the forward that is
flagged where there are visits enough. -/
theorem propagateBefore_decodingLoop :
    FlowGraph.build DecodingLoop.catalog .empty DecodingLoop.procedure = .ok DecodingLoop.graph ∧
    (DecodingLoop.graph.propagateBefore ⟨some 0, id, id⟩ (.standard ⟨true⟩)
      ⟨1, 10, true⟩).isUnstable = true ∧
    DecodingLoop.graph.IsFallback (DecodingLoop.graph.propagateBefore ⟨some 0, id, id⟩
      (.standard ⟨true⟩) ⟨1, 10, true⟩) ∧
    ∃ flagged ∈ (DecodingLoop.graph.propagateBefore ⟨some 0, id, id⟩ (.standard ⟨true⟩)
        ⟨50, 10, true⟩).findings,
      flagged.verdict = .flagged ∧
      ∃ finding ∈ (DecodingLoop.graph.propagateBefore ⟨some 0, id, id⟩ (.standard ⟨true⟩)
        ⟨1, 10, true⟩).findings, finding.ends = flagged.ends := by
  have unstable : (DecodingLoop.graph.propagateBefore ⟨some 0, id, id⟩ (.standard ⟨true⟩)
      ⟨1, 10, true⟩).isUnstable = true := by cbv
  have found : (DecodingLoop.graph.propagateBefore ⟨some 0, id, id⟩ (.standard ⟨true⟩)
      ⟨50, 10, true⟩).findings.map Finding.verdict = [.flagged] := by cbv
  obtain ⟨flagged, only, verdict⟩ := List.map_eq_singleton_iff.1 found
  have member : flagged ∈ (DecodingLoop.graph.propagateBefore ⟨some 0, id, id⟩ (.standard ⟨true⟩)
      ⟨50, 10, true⟩).findings := by
    rw [only]
    exact List.mem_singleton_self flagged
  obtain ⟨isFallback, covers⟩ := propagateBefore_falls_back DecodingLoop.build_eq ⟨some 0, id, id⟩
    (.standard ⟨true⟩) ⟨1, 10, true⟩ unstable
  exact ⟨DecodingLoop.build_eq, unstable, isFallback, flagged, member, verdict,
    covers ⟨some 0, id, id⟩ (.standard ⟨true⟩) ⟨50, 10, true⟩ flagged member⟩

end FlowGraph

end ForwardTaint
