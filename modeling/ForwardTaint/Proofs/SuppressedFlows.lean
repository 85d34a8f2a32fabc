import ForwardTaint.Proofs.ReportedFlows

/-!
What stands behind a flow that is reported as suppressed.  Taint that does not arrive was stopped on
every way: by a guard that is listed with the finding, or by another source, which taint does not get
through and which is not listed.
-/

namespace ForwardTaint

namespace FlowGraph

/-- Taint goes from the first node on through the listed nodes, the last of which is the last node. -/
inductive Way (graph : FlowGraph) : Nat → List Nat → Nat → Prop
  | here {node : Nat} : Way graph node [] node
  | step {first next last : Nat} {way : List Nat} (taintStep : graph.TaintStep first next)
      (rest : Way graph next way last) : Way graph first (next :: way) last

variable {graph : FlowGraph}

theorem Way.taintPath {first last : Nat} {way : List Nat} (isWay : graph.Way first way last) :
    graph.TaintPath first last := by
  induction isWay with
  | here => exact .refl
  | step taintStep _ inductionHypothesis => exact .head taintStep inductionHypothesis

theorem exists_way {first last : Nat} (path : graph.TaintPath first last) :
    ∃ way, graph.Way first way last := by
  induction path using Relation.ReflTransGen.head_induction_on with
  | refl => exact ⟨[], .here⟩
  | head taintStep _ inductionHypothesis =>
      obtain ⟨way, isWay⟩ := inductionHypothesis
      exact ⟨_, .step taintStep isWay⟩

/-- A way from a node to which an open path leads is open too, or enters a closed node other than the
seed. -/
theorem Way.open_or_closed {run : SourceRun} {first last : Nat} {way : List Nat}
    (isWay : graph.Way first way last) (isOpen : graph.OpenPath run run.seed first) :
    graph.OpenPath run run.seed last ∨
      ∃ number ∈ way, number ≠ run.seed ∧ graph.IsClosed run number ∧
        graph.TaintPath run.seed number ∧ graph.TaintPath number last := by
  induction isWay with
  | here => exact .inl isOpen
  | @step first next last way taintStep rest inductionHypothesis =>
      by_cases isSeed : next = run.seed
      · subst isSeed
        rcases inductionHypothesis .refl with isOpen | ⟨number, member, isClosed⟩
        · exact .inl isOpen
        · exact .inr ⟨number, List.mem_cons_of_mem _ member, isClosed⟩
      · by_cases closed : graph.IsClosed run next
        · exact .inr ⟨next, List.mem_cons_self, isSeed, closed, isOpen.taintPath.tail taintStep,
            rest.taintPath⟩
        · rcases inductionHypothesis (isOpen.tail ⟨taintStep, closed⟩) with
            isOpen | ⟨number, member, isClosed⟩
          · exact .inl isOpen
          · exact .inr ⟨number, List.mem_cons_of_mem _ member, isClosed⟩

end FlowGraph

/-- The test of a barrier, its outcome and the variable that it protects. -/
def AppliedBarrier.key (barrier : AppliedBarrier) : Nat × Bool × String :=
  (barrier.guard, barrier.outcome, barrier.variableName)

namespace SourceRun

variable {graph : FlowGraph} {run : SourceRun}

/-- A barrier that is on the list stays there. -/
theorem mem_addBarrier_of_mem {barriers : List AppliedBarrier} {known : AppliedBarrier}
    (member : known ∈ barriers) (barrier : AppliedBarrier) :
    known ∈ addBarrier barriers barrier := by
  unfold addBarrier
  split
  · exact member
  · exact List.mem_append_left _ member

/-- Only barriers that are added come to the list. -/
theorem mem_of_mem_addBarriers {barriers added : List AppliedBarrier} {known : AppliedBarrier}
    (member : known ∈ added.foldl addBarrier barriers) : known ∈ barriers ∨ known ∈ added := by
  induction added generalizing barriers with
  | nil => exact .inl member
  | cons barrier added inductionHypothesis =>
      rcases inductionHypothesis member with earlier | later
      · unfold addBarrier at earlier
        split at earlier
        · exact .inl earlier
        · rcases List.mem_append.1 earlier with old | isNew
          · exact .inl old
          · exact .inr (List.mem_cons.2 (.inl (List.mem_singleton.1 isNew)))
      · exact .inr (List.mem_cons_of_mem _ later)

theorem exists_addBarrier (barriers : List AppliedBarrier) (barrier : AppliedBarrier) :
    ∃ known ∈ addBarrier barriers barrier, known.key = barrier.key := by
  unfold addBarrier
  split
  · rename_i isOld
    obtain ⟨known, member, same⟩ := List.any_eq_true.1 isOld
    simp only [Bool.and_eq_true, beq_iff_eq] at same
    obtain ⟨⟨guard, outcome⟩, variableName⟩ := same
    refine ⟨known, member, ?_⟩
    rw [AppliedBarrier.key, guard, outcome, variableName]
    rfl
  · exact ⟨barrier, List.mem_append_right _ (List.mem_singleton_self barrier), rfl⟩

/-- For each barrier that is added, one with its key is on the list. -/
theorem exists_addBarriers {barriers added : List AppliedBarrier} {barrier : AppliedBarrier}
    (member : barrier ∈ barriers ∨ barrier ∈ added) :
    ∃ known ∈ added.foldl addBarrier barriers, known.key = barrier.key := by
  induction added generalizing barriers barrier with
  | nil => exact ⟨barrier, member.resolve_right List.not_mem_nil, rfl⟩
  | cons first added inductionHypothesis =>
      rcases member with old | member
      · exact inductionHypothesis (.inl (mem_addBarrier_of_mem old first))
      · rcases List.mem_cons.1 member with isFirst | later
        · obtain ⟨known, isKnown, same⟩ := exists_addBarrier barriers first
          obtain ⟨listed, isListed, same'⟩ := inductionHypothesis (.inl isKnown)
          exact ⟨listed, isListed, by rw [same', same, isFirst]⟩
        · exact inductionHypothesis (.inr later)

/-- An effective guard between the seed and some nodes is among the barriers. -/
theorem exists_barriers {reachable : Array Bool} {goals : List Nat} {number : Nat}
    {node : FlowNode} {guard : Nat} {outcome : Bool} {condition : GuardCondition}
    {evaluation : BarrierEvaluation} (present : graph.nodes[number]? = some node)
    (isGuard : node.kind = .guard guard outcome) (known : graph.guards[guard]? = some condition)
    (evaluated : run.evaluation? number = some evaluation)
    (effective : evaluation.verdict = .effective) (reached : reachable.getD number false = true)
    (reaches : (graph.reaching goals).getD number false = true) :
    ∃ barrier ∈ run.barriers graph reachable goals,
      barrier.key = (guard, outcome, node.variableName.getD "") := by
  have applied : run.barrierAt? graph number = some ⟨guard, outcome, condition.text,
      condition.span, node.variableName.getD "", evaluation⟩ := by
    simp [barrierAt?, present, evaluated, isGuard, known, BarrierVerdict.isEffective, effective]
  obtain ⟨within, -⟩ := Array.getElem?_eq_some_iff.1 present
  have isBetween : number ∈ (List.range graph.nodes.size).filter fun node =>
      reachable.getD node false && (graph.reaching goals).getD node false :=
    List.mem_filter.2 ⟨List.mem_range.2 within, by rw [reached, reaches]; rfl⟩
  exact exists_addBarriers (.inr (List.mem_filterMap.2 ⟨number, isBetween, applied⟩))

/-- All barriers of a run are effective. -/
theorem effective_of_mem_barriers {reachable : Array Bool} {goals : List Nat}
    {barrier : AppliedBarrier} (member : barrier ∈ run.barriers graph reachable goals) :
    barrier.evaluation.verdict = .effective := by
  rcases mem_of_mem_addBarriers member with none | isApplied
  · exact nomatch none
  · obtain ⟨number, -, applied⟩ := List.mem_filterMap.1 isApplied
    unfold barrierAt? at applied
    obtain ⟨node, -, applied⟩ := Option.bind_eq_some_iff.1 applied
    obtain ⟨evaluation, -, applied⟩ := Option.bind_eq_some_iff.1 applied
    split at applied
    · exact nomatch applied
    · rename_i effective
      split at applied
      · obtain ⟨condition, -, applied⟩ := Option.bind_eq_some_iff.1 applied
        rw [← Option.some.inj applied]
        simpa [BarrierVerdict.isEffective] using effective
      · exact nomatch applied

end SourceRun

/-- The node is a guard, and the finding lists an effective barrier for its test, its outcome and
its variable. -/
def Finding.Lists (finding : Finding) (graph : FlowGraph) (number : Nat) : Prop :=
  ∃ node guard outcome, graph.nodes[number]? = some node ∧ node.kind = .guard guard outcome ∧
    ∃ barrier ∈ finding.barriers, barrier.key = (guard, outcome, node.variableName.getD "") ∧
      barrier.evaluation.verdict = .effective

namespace FlowGraph

variable {graph : FlowGraph} {registry : BarrierRegistry} {limits : PropagationLimits}

/-- A flow is suppressed where no tainted value arrives, and has the barriers of its run. -/
theorem suppressed_of_sinkFinding {run : SourceRun} {reachable : Array Bool} {sink : Nat}
    {found : Finding} (isFound : graph.sinkFinding? limits run reachable sink = some found)
    (suppressed : found.verdict = .suppressedByBarrier) :
    ¬(run.values.joined (graph.sinkArguments sink)).isTainted = true ∧
      found.barriers = run.barriers graph reachable (graph.sinkArguments sink) := by
  rcases sinkFinding_cases isFound with ⟨-, rfl⟩ | ⟨clean, -, rfl⟩
  · exact nomatch suppressed
  · exact ⟨clean, rfl⟩

/-- The checked arguments of a sink are nodes. -/
theorem sinkArguments_lt_size (sourcesWithin : ∀ edge ∈ graph.edges, edge.source < graph.nodes.size)
    (sink : Nat) : ∀ argument ∈ graph.sinkArguments sink, argument < graph.nodes.size := by
  intro argument isArgument
  unfold sinkArguments at isArgument
  split at isArgument
  · obtain ⟨edge, isIncoming, isSource⟩ := List.mem_filterMap.1 (Ascending.mem_ofList.1 isArgument)
    have isEdge := (List.mem_filter.1 isIncoming).1
    split at isSource
    · split at isSource
      · rw [← Option.some.inj isSource]
        exact sourcesWithin edge isEdge
      · exact nomatch isSource
    · exact nomatch isSource
  · exact nomatch isArgument

/-- A closed node between the source of a run and a checked argument is another source or a listed
guard. -/
theorem listed_of_isClosed (wellFormed : graph.IsWellFormed) {run : SourceRun}
    (isSource : run.seed ∈ graph.sources) {sink argument number : Nat} {found : Finding}
    (barriers : found.barriers =
      run.barriers graph (graph.reachableFrom run.seed) (graph.sinkArguments sink))
    (isArgument : argument ∈ graph.sinkArguments sink) (isClosed : graph.IsClosed run number)
    (reached : graph.TaintPath run.seed number) (reaches : graph.TaintPath number argument) :
    number ∈ graph.sources ∨ found.Lists graph number := by
  obtain ⟨source, isPresent, -⟩ := wellFormed.mem_sources.1 isSource
  have within : run.seed < graph.nodes.size := (Array.getElem?_eq_some_iff.1 isPresent).1
  obtain ⟨node, present, isSourceCall | ⟨⟨guard, outcome, isGuard⟩, evaluation, evaluated, effective⟩⟩ :=
    isClosed
  · exact .inl (wellFormed.mem_sources.2 ⟨node, present, isSourceCall⟩)
  · obtain ⟨condition, subject, known, -, -⟩ := wellFormed.guard number node guard outcome present isGuard
    have isReached := (reachableFrom_iff wellFormed.target_lt within).2 reached
    have inside := sinkArguments_lt_size wellFormed.source_lt sink
    have isReaching := (reaching_iff wellFormed.source_lt inside).2 ⟨argument, isArgument, reaches⟩
    obtain ⟨barrier, isListed, key⟩ := SourceRun.exists_barriers present isGuard known evaluated
      effective isReached isReaching
    have isEffective := SourceRun.effective_of_mem_barriers isListed
    exact .inr ⟨node, guard, outcome, present, isGuard, barrier, barriers ▸ isListed, key, isEffective⟩

/-- Where propagation comes to an end, taint can get from the source of a suppressed flow to a checked
argument of its sink, but each way there enters another source, or a guard that the finding lists
with an effective barrier. -/
theorem propagateBefore_explains_suppressed {catalog : Catalog} {unitConstants : StringMap String}
    {procedure : Procedure} {graph : FlowGraph}
    (built : FlowGraph.build catalog unitConstants procedure = .ok graph)
    (deadline : Deadline) (registry : BarrierRegistry) (limits : PropagationLimits)
    (complete : (graph.propagateBefore deadline registry limits).status = .complete)
    {finding : Finding}
    (member : finding ∈ (graph.propagateBefore deadline registry limits).findings)
    (suppressed : finding.verdict = .suppressedByBarrier) :
    (∃ argument ∈ graph.sinkArguments finding.sink.node, ∃ way,
      graph.Way finding.source.node way argument) ∧
    ∀ argument ∈ graph.sinkArguments finding.sink.node, ∀ way,
      graph.Way finding.source.node way argument →
      ∃ number ∈ way, number ≠ finding.source.node ∧
        (number ∈ graph.sources ∨ finding.Lists graph number) := by
  obtain ⟨run, isSource, done, reaches, sink, lookedAt, isFound⟩ :=
    run_of_mem_findings complete member
  obtain ⟨seed, isSink⟩ := Prod.mk.inj (ends_sinkFinding isFound)
  have wellFormed := isWellFormed_of_build built
  obtain ⟨clean, barriers⟩ := suppressed_of_sinkFinding isFound suppressed
  rw [isTainted_sinkArguments wellFormed isSource reaches done] at clean
  obtain ⟨-, argument, isArgument, path⟩ :=
    (mem_sinksWithin_reachableFrom wellFormed isSource sink).1 lookedAt
  rw [seed, isSink]
  constructor
  · exact ⟨argument, isArgument, exists_way path⟩
  · intro argument isArgument way isWay
    rcases isWay.open_or_closed .refl with isOpen | ⟨number, onWay, different, closed, before, behind⟩
    · exact absurd ⟨argument, isArgument, isOpen⟩ clean
    · exact ⟨number, onWay, different,
        listed_of_isClosed wellFormed isSource barriers isArgument closed before behind⟩

end FlowGraph

/-! A procedure that forwards to a path only where it is the home page. -/

namespace HomeForward

def procedure : Procedure :=
  { Procedure.named "serve" with
    body := [
      .declare "path" none (some (.localCall "getParameter" [])) .zero,
      .branch (.methodCall (.variable "path") "equals" [.literal "/home"])
        [.evaluate (.localCall "forward" [.variable "path"]) .zero] none .zero] }

def guard : GuardCondition where
  id := 0
  text := "path.equals(\"/home\")"
  span := .zero
  onTrue := [⟨"path", .equals, .literal "/home", false⟩]
  onFalse := [⟨"path", .equals, .literal "/home", true⟩]
  opaqueSubjects := []
  flagName := none

def graph : FlowGraph where
  procedureName := "serve"
  nodes := #[
    ⟨.sourceCall, "getParameter()", .zero, none⟩,
    ⟨.variableRef, "path = getParameter()", .zero, some "path"⟩,
    ⟨.literal, "/home", .zero, none⟩,
    ⟨.call, "path.equals(\"/home\")", .zero, none⟩,
    ⟨.guard 0 true, "path.equals(\"/home\") [true]", .zero, some "path"⟩,
    ⟨.sinkCall [0], "forward(path)", .zero, none⟩,
    ⟨.guard 0 false, "path.equals(\"/home\") [false]", .zero, some "path"⟩,
    ⟨.phi, "join path", .zero, some "path"⟩]
  edges := [
    ⟨6, 7, .plain .join⟩, ⟨4, 7, .plain .join⟩, ⟨1, 6, .refinement 0 false⟩,
    ⟨4, 5, .plain (.argument 0)⟩, ⟨1, 4, .refinement 0 true⟩, ⟨2, 3, .plain (.argument 0)⟩,
    ⟨1, 3, .plain .receiver⟩, ⟨0, 1, .plain .assign⟩]
  guards := #[guard]
  sources := [0]
  sinks := [5]

theorem build_eq : FlowGraph.build DecodingLoop.catalog .empty procedure = .ok graph := by
  cbv

/-- The flow is suppressed, and what stands on its way is the guard. -/
theorem guard_explains :
    (graph.propagateBefore ⟨some 0, id, id⟩ (.standard ⟨false⟩) ⟨50, 10, true⟩).status =
      .complete ∧
    ∃ finding ∈ (graph.propagateBefore ⟨some 0, id, id⟩ (.standard ⟨false⟩)
        ⟨50, 10, true⟩).findings,
      finding.verdict = .suppressedByBarrier ∧ graph.Way 0 [1, 4] 4 ∧ finding.Lists graph 4 := by
  have complete : (graph.propagateBefore ⟨some 0, id, id⟩ (.standard ⟨false⟩)
      ⟨50, 10, true⟩).status = .complete := by cbv
  have found : ((graph.propagateBefore ⟨some 0, id, id⟩ (.standard ⟨false⟩)
      ⟨50, 10, true⟩).findings.map fun finding => (finding.ends, finding.verdict)) =
        [((0, 5), .suppressedByBarrier)] := by cbv
  obtain ⟨finding, only, same⟩ := List.map_eq_singleton_iff.1 found
  obtain ⟨ends, suppressed⟩ := Prod.mk.inj same
  obtain ⟨source, sink⟩ := Prod.mk.inj ends
  have member : finding ∈ (graph.propagateBefore ⟨some 0, id, id⟩ (.standard ⟨false⟩)
      ⟨50, 10, true⟩).findings := by
    rw [only]
    exact List.mem_singleton_self finding
  have isWay : graph.Way 0 [1, 4] 4 :=
    .step (FlowGraph.mem_taintTargets.1 (by decide : 1 ∈ graph.taintTargets 0))
      (.step (FlowGraph.mem_taintTargets.1 (by decide : 4 ∈ graph.taintTargets 1)) .here)
  obtain ⟨-, explains⟩ := FlowGraph.propagateBefore_explains_suppressed build_eq
    ⟨some 0, id, id⟩ (.standard ⟨false⟩) ⟨50, 10, true⟩ complete member suppressed
  rw [source, sink] at explains
  obtain ⟨number, onWay, -, isSource | isListed⟩ := explains 4 (by decide) [1, 4] isWay
  · rw [show graph.sources = [0] from rfl, List.mem_singleton] at isSource
    subst isSource
    exact absurd onWay (by decide)
  · rcases List.mem_cons.1 onWay with rfl | onWay
    · obtain ⟨node, guard, outcome, present, isGuard, -⟩ := isListed
      obtain rfl := Option.some.inj present
      cases isGuard
    · obtain rfl := List.mem_singleton.1 onWay
      exact ⟨complete, finding, member, suppressed, isWay, isListed⟩

end HomeForward

/-! A procedure that forwards to a parameter whose name is a parameter. -/

namespace NestedSources

def procedure : Procedure :=
  { Procedure.named "serve" with
    body := [
      .evaluate (.localCall "forward" [.localCall "getParameter" [.localCall "getParameter" []]])
        .zero] }

def graph : FlowGraph where
  procedureName := "serve"
  nodes := #[
    ⟨.sourceCall, "getParameter()", .zero, none⟩,
    ⟨.sourceCall, "getParameter(getParameter())", .zero, none⟩,
    ⟨.sinkCall [0], "forward(getParameter(getParameter()))", .zero, none⟩]
  edges := [⟨1, 2, .plain (.argument 0)⟩, ⟨0, 1, .plain (.argument 0)⟩]
  guards := #[]
  sources := [0, 1]
  sinks := [2]

theorem build_eq : FlowGraph.build DecodingLoop.catalog .empty procedure = .ok graph := by
  cbv

/-- Taint of the name does not get through the other source, and no barrier is listed for it. -/
theorem suppressed_without_barrier :
    FlowGraph.build DecodingLoop.catalog .empty procedure = .ok graph ∧
    (graph.propagate (.standard ⟨false⟩) ⟨50, 10, true⟩).status = .complete ∧
    ∃ finding ∈ (graph.propagate (.standard ⟨false⟩) ⟨50, 10, true⟩).findings,
      finding.verdict = .suppressedByBarrier ∧ finding.barriers = [] ∧
      ∃ argument ∈ graph.sinkArguments finding.sink.node, ∃ way,
        graph.Way finding.source.node way argument ∧
        ∀ number ∈ finding.source.node :: way, ¬finding.Lists graph number := by
  have complete : (graph.propagate (.standard ⟨false⟩) ⟨50, 10, true⟩).status = .complete := by cbv
  have found : ((graph.propagate (.standard ⟨false⟩) ⟨50, 10, true⟩).findings.map fun finding =>
      (finding.ends, finding.verdict, finding.barriers)) =
        [((0, 2), .suppressedByBarrier, []), ((1, 2), .flagged, [])] := by cbv
  obtain ⟨finding, rest, findings, same, -⟩ := List.map_eq_cons_iff.1 found
  obtain ⟨ends, suppressed⟩ := Prod.mk.inj same
  obtain ⟨suppressed, noBarriers⟩ := Prod.mk.inj suppressed
  obtain ⟨source, sink⟩ := Prod.mk.inj ends
  have member : finding ∈ (graph.propagate (.standard ⟨false⟩) ⟨50, 10, true⟩).findings := by
    rw [findings]
    exact List.mem_cons_self
  have notListed (number : Nat) : ¬finding.Lists graph number := by
    rintro ⟨-, -, -, -, -, barrier, isListed, -⟩
    rw [noBarriers] at isListed
    exact List.not_mem_nil isListed
  refine ⟨build_eq, complete, finding, member, suppressed, noBarriers, 1, ?_, [1], ?_, ?_⟩
  · rw [sink]
    decide
  · rw [source]
    exact .step (FlowGraph.mem_taintTargets.1 (by decide : 1 ∈ graph.taintTargets 0)) .here
  · exact fun number _ => notListed number

end NestedSources

end ForwardTaint
