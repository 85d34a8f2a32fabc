import ForwardTaint.Proofs.AbandonedFlows
import ForwardTaint.Proofs.GraphOrder
import ForwardTaint.Proofs.ShortestWays

/-!
What the path of a finding shows: a shortest way from the source to the sink, the end of which is left
out where the path would get too long.  The way of a flagged flow goes through tainted nodes only, for
what is not clean behind a tainted node is tainted itself.
-/

namespace ForwardTaint

namespace FlowGraph

variable {graph : FlowGraph} {registry : BarrierRegistry} {run : SourceRun}

/-- The checked arguments of a sink are the nodes that an edge of a checked position leads from. -/
theorem mem_sinkArguments_iff {sink argument : Nat} :
    argument ∈ graph.sinkArguments sink ↔ ∃ (node : FlowNode) (positions : List Nat),
      graph.nodes[sink]? = some node ∧ node.kind = .sinkCall positions ∧
      ∃ edge ∈ graph.edges, edge.source = argument ∧ edge.target = sink ∧
        ∃ position ∈ positions, edge.label.kind = .argument position := by
  constructor
  · intro isArgument
    unfold sinkArguments at isArgument
    split at isArgument
    · rename_i positions isSink
      obtain ⟨node, present, kind⟩ := Option.map_eq_some_iff.1 isSink
      obtain ⟨edge, isIncoming, starts⟩ :=
        List.mem_filterMap.1 (Ascending.mem_ofList.1 isArgument)
      obtain ⟨isEdge, ends⟩ := List.mem_filter.1 isIncoming
      refine ⟨node, positions, present, kind, edge, isEdge, ?_, beq_iff_eq.1 ends, ?_⟩ <;>
        split at starts
      · split at starts
        · exact Option.some.inj starts
        · exact nomatch starts
      · exact nomatch starts
      · rename_i position isPosition
        split at starts
        · rename_i isChecked
          exact ⟨position, List.contains_iff_mem.1 isChecked, isPosition⟩
        · exact nomatch starts
      · exact nomatch starts
    · exact nomatch isArgument
  · rintro ⟨node, positions, present, kind, edge, isEdge, rfl, ends, position, isChecked, isPosition⟩
    exact mem_sinkArguments present kind isEdge ends isChecked isPosition

/-- Taint goes from a checked argument to its sink. -/
theorem taintStep_of_mem_sinkArguments {sink argument : Nat}
    (isArgument : argument ∈ graph.sinkArguments sink) : graph.TaintStep argument sink := by
  obtain ⟨-, -, -, -, edge, isEdge, starts, ends, position, -, isPosition⟩ :=
    mem_sinkArguments_iff.1 isArgument
  refine ⟨edge, isEdge, starts, ends, ?_⟩
  unfold EdgeLabel.carriesTaint
  rw [isPosition]
  rfl

/-- A source is no sink. -/
theorem ne_of_source_of_sink (wellFormed : graph.IsWellFormed) {source sink : Nat}
    (isSource : source ∈ graph.sources) (isSink : sink ∈ graph.sinks) : source ≠ sink := by
  rintro rfl
  obtain ⟨node, present, kind⟩ := wellFormed.mem_sources.1 isSource
  obtain ⟨other, positions, present', kind'⟩ := wellFormed.mem_sinks.1 isSink
  obtain rfl := Option.some.inj (present.symm.trans present')
  exact nomatch kind.symm.trans kind'

theorem guardOutput_of_effective {guard : Nat} {outcome : Bool} {variableName : Option String}
    {input : TaintValue} {evaluation : BarrierEvaluation}
    (evaluated : (graph.guardOutput registry guard outcome variableName input).evaluation =
      some evaluation) (effective : evaluation.verdict = .effective) :
    (graph.guardOutput registry guard outcome variableName input).value = .clean := by
  unfold guardOutput at *
  split at evaluated
  · exact nomatch evaluated
  · rename_i dirty
    rw [if_neg dirty]
    split at evaluated
    · simp only [Option.some.injEq] at evaluated
      simp only [evaluated, effective]
      rfl
    · exact nomatch evaluated

/-- Taint on an open path is on the way at each of its nodes. -/
theorem OpenPath.exists_way {first last : Nat} (isOpen : graph.OpenPath run first last) :
    ∃ way, graph.Way first way last ∧ ∀ number ∈ first :: way, graph.OpenPath run first number := by
  induction isOpen with
  | refl => exact ⟨[], .here, List.forall_mem_singleton.2 .refl⟩
  | @tail middle last before step inductionHypothesis =>
      obtain ⟨way, isWay, areOpen⟩ := inductionHypothesis
      refine ⟨way ++ [last], way_concat_iff.2 ⟨middle, isWay, step.1, rfl⟩, ?_⟩
      rw [← List.cons_append, List.forall_mem_append, List.forall_mem_singleton]
      exact ⟨areOpen, before.tail step⟩

end FlowGraph

namespace SourceRun

variable {graph : FlowGraph} {registry : BarrierRegistry} {run : SourceRun}

/-- What no taint gets through is clean in the end, but for the seed. -/
theorem isCleanAt_of_isClosed (reaches : Reaches graph registry (start graph run.seed) run)
    (done : run.pending = []) {number : Nat} (closed : graph.IsClosed run number)
    (notSeed : number ≠ run.seed) : run.isCleanAt number = true := by
  have finished := isConsistent_of_reaches (isConsistent_start graph registry run.seed) reaches
  obtain ⟨node, present, isClosed⟩ := closed
  obtain ⟨value, recorded⟩ := finished.settled number node present (done ▸ List.not_mem_nil)
  rw [isCleanAt, value]
  rcases isClosed with kind | ⟨⟨guard, outcome, kind⟩, evaluation, evaluated, effective⟩
  · unfold FlowGraph.transfer
    rw [kind]
    simp only [if_neg notSeed]
    rfl
  · rw [recorded] at evaluated
    rw [FlowGraph.transfer_of_guard kind] at evaluated ⊢
    rw [FlowGraph.guardOutput_of_effective evaluated effective]
    rfl

/-- What is not clean in the end on a way from an open node is open too. -/
theorem openPath_of_dirty (reaches : Reaches graph registry (start graph run.seed) run)
    (done : run.pending = []) {first last : Nat} {way : List Nat}
    (isWay : graph.Way first way last) (isOpen : graph.OpenPath run run.seed first)
    (dirty : ∀ number ∈ way, run.isCleanAt number = false) :
    ∀ number ∈ first :: way, graph.OpenPath run run.seed number := by
  induction isWay with
  | here => simpa using isOpen
  | @step first next last way taintStep rest inductionHypothesis =>
      rw [List.forall_mem_cons] at dirty
      rw [List.forall_mem_cons]
      refine ⟨isOpen, inductionHypothesis ?_ dirty.2⟩
      by_cases isSeed : next = run.seed
      · rw [isSeed]
        exact .refl
      · refine isOpen.tail ⟨taintStep, fun closed => ?_⟩
        have clean := isCleanAt_of_isClosed reaches done closed isSeed
        exact Bool.false_ne_true (dirty.1.symm.trans clean)

/-- Where a tainted value arrives at a checked argument, the search through the nodes that are not
clean finds a shortest way to the sink, all of it tainted. -/
theorem searchPath_of_tainted (wellFormed : graph.IsWellFormed)
    (isSource : run.seed ∈ graph.sources)
    (reaches : Reaches graph registry (start graph run.seed) run) (done : run.pending = [])
    {sink : Nat} (tainted : (run.values.joined (graph.sinkArguments sink)).isTainted = true) :
    ∃ way, graph.searchPath (fun node => node == sink || !run.isCleanAt node) sink
          graph.nodes.size [(run.seed, [])] [run.seed] = some (run.seed :: way) ∧
      graph.IsShortestWay (fun number => run.isCleanAt number = false) run.seed way sink ∧
      ∀ number ∈ run.seed :: way, (run.values.at number).isTainted = true := by
  obtain ⟨source, present, kind⟩ := wellFormed.mem_sources.1 isSource
  have isTainted {number : Nat} : (run.values.at number).isTainted = true ↔
      graph.OpenPath run run.seed number :=
    isTainted_iff_openPath wellFormed present kind reaches done
  have dirty {number : Nat} (isOpen : graph.OpenPath run run.seed number) :
      run.isCleanAt number = false :=
    TaintValue.isClean_of_isTainted (isTainted.2 isOpen)
  obtain ⟨argument, isArgument, isOpen⟩ :=
    (FlowGraph.isTainted_sinkArguments wellFormed isSource reaches done sink).1 tainted
  obtain ⟨node, positions, isNode, isSink, -⟩ := FlowGraph.mem_sinkArguments_iff.1 isArgument
  have notClosed : ¬graph.IsClosed run sink := by
    rintro ⟨other, isOther, isClosed⟩
    obtain rfl := Option.some.inj (isNode.symm.trans isOther)
    rcases isClosed with isSource | ⟨⟨guard, outcome, isGuard⟩, -⟩
    · exact nomatch isSink.symm.trans isSource
    · exact nomatch isSink.symm.trans isGuard
  have atSink : graph.OpenPath run run.seed sink :=
    isOpen.tail ⟨FlowGraph.taintStep_of_mem_sinkArguments isArgument, notClosed⟩
  -- The search lets the sink pass in any case, which adds nothing: it is not clean itself.
  have admits (number : Nat) :
      (number == sink || !run.isCleanAt number) = true ↔ run.isCleanAt number = false := by
    rw [Bool.or_eq_true, beq_iff_eq, Bool.not_eq_true', or_iff_right_iff_imp]
    rintro rfl
    exact dirty atSink
  have alike (way : List Nat) (_ : graph.Way run.seed way sink) :
      (∀ number ∈ way, (number == sink || !run.isCleanAt number) = true) ↔
        ∀ number ∈ run.seed :: way, run.isCleanAt number = false := by
    simp only [admits, List.forall_mem_cons, dirty .refl, true_and]
  obtain ⟨known, isWay, areOpen⟩ := atSink.exists_way
  obtain ⟨way, found, isShortest⟩ := FlowGraph.searchPath_isShortestWay wellFormed.target_lt
    (Array.getElem?_eq_some_iff.1 present).1 alike isWay
    fun number onWay => dirty (areOpen number onWay)
  refine ⟨way, found, isShortest, fun number onWay => isTainted.2 ?_⟩
  exact openPath_of_dirty reaches done isShortest.isWay .refl
    (fun number onWay => isShortest.passes number (List.mem_cons_of_mem _ onWay)) number onWay

end SourceRun

namespace FlowGraph

variable {graph : FlowGraph} {registry : BarrierRegistry} {limits : PropagationLimits}
  {deadline : Deadline}

/-- All nodes of a way are reached from its first node. -/
theorem Way.reached {first last : Nat} {way : List Nat} (isWay : graph.Way first way last) :
    ∀ number ∈ way, graph.TaintPath first number := by
  induction isWay with
  | here => exact nofun
  | step taintStep _ inductionHypothesis =>
      rw [List.forall_mem_cons]
      exact ⟨.single taintStep, fun number onWay => .head taintStep (inductionHypothesis number onWay)⟩

theorem Way.getLast?_eq {first last : Nat} {way : List Nat} (isWay : graph.Way first way last) :
    (first :: way).getLast? = some last := by
  induction isWay with
  | here => rfl
  | step _ _ inductionHypothesis => rw [List.getLast?_cons_cons, inductionHypothesis]

/-- Where taint can get to a sink, the search through the nodes that it can reach finds a shortest
way of all. -/
theorem searchPath_of_connects (wellFormed : graph.IsWellFormed) {source sink : Nat}
    (connects : graph.Connects source sink) :
    ∃ way, graph.searchPath (fun node => (graph.reachableFrom source).getD node false) sink
          graph.nodes.size [(source, [])] [source] = some (source :: way) ∧
      graph.IsShortestWay (fun _ => True) source way sink := by
  obtain ⟨isSource, -, argument, isArgument, path⟩ := connects
  obtain ⟨node, present, -⟩ := wellFormed.mem_sources.1 isSource
  have within : source < graph.nodes.size := (Array.getElem?_eq_some_iff.1 present).1
  obtain ⟨known, isWay⟩ := exists_way (path.tail (taintStep_of_mem_sinkArguments isArgument))
  refine searchPath_isShortestWay wellFormed.target_lt within (fun way isWay => ?_) isWay
    fun _ _ => trivial
  refine iff_of_true (fun number onWay => ?_) fun _ _ => trivial
  exact (reachableFrom_iff wellFormed.target_lt within).2 (isWay.reached number onWay)

/-- The run from a source, where propagation comes to an end before the deadline. -/
def finishedRun? (graph : FlowGraph) (deadline : Deadline) (registry : BarrierRegistry)
    (limits : PropagationLimits) (source : Nat) : Option SourceRun :=
  match graph.runFromBefore deadline registry limits.maxVisits graph.sources .none with
  | .ok (runs, _) => runs.find? fun run => run.seed == source
  | .error _ => none

/-- The runs behind an outcome that is complete; each is the finished run from its seed. -/
theorem finishedRuns_of_complete (wellFormed : graph.IsWellFormed)
    (complete : (graph.propagateBefore deadline registry limits).status = .complete) :
    ∃ runs : List SourceRun, runs.map SourceRun.seed = graph.sources ∧
      (∀ run ∈ runs, run.pending = [] ∧
        SourceRun.Reaches graph registry (.start graph run.seed) run ∧
        graph.finishedRun? deadline registry limits run.seed = some run) ∧
      (graph.propagateBefore deadline registry limits).findings =
        Finding.sorted (runs.flatMap (graph.findingsOf limits)) := by
  unfold propagateBefore finishedRun? at *
  simp only at *
  cases ran : graph.runFromBefore deadline registry limits.maxVisits graph.sources .none with
  | error interruption =>
      simp only [ran, reduceCtorEq] at complete
  | ok finished =>
      obtain ⟨runs, effort⟩ := finished
      obtain ⟨seeds, finished⟩ := reaches_of_runFromBefore ran
      have distinct : (runs.map SourceRun.seed).Nodup := seeds ▸ wellFormed.sources.nodup
      refine ⟨runs, seeds, fun run isRun => ?_, rfl⟩
      obtain ⟨done, reaches⟩ := finished run isRun
      refine ⟨done, reaches, ?_⟩
      obtain ⟨other, isOther⟩ : ∃ other,
          (runs.find? fun other => other.seed == run.seed) = some other :=
        Option.isSome_iff_exists.1 (List.find?_isSome.2 ⟨run, isRun, beq_self_eq_true _⟩)
      have same : other.seed = run.seed := by simpa using List.find?_some isOther
      obtain rfl := List.inj_on_of_nodup_map distinct (List.mem_of_find?_eq_some isOther) isRun same
      exact isOther

/-- Propagation that is given up has no finished runs. -/
theorem finishedRun_of_unstable
    (unstable : (graph.propagateBefore deadline registry limits).isUnstable = true) (source : Nat) :
    graph.finishedRun? deadline registry limits source = none := by
  unfold finishedRun?
  cases ran : graph.runFromBefore deadline registry limits.maxVisits graph.sources .none with
  | ok finished =>
      unfold propagateBefore at unstable
      simp only [ran] at unstable
      exact absurd unstable Bool.false_ne_true
  | error interruption => rfl

end FlowGraph

namespace Finding

variable {graph : FlowGraph} {registry : BarrierRegistry} {limits : PropagationLimits}
  {deadline : Deadline} {finding : Finding}

/-- The nodes that the path of a finding may go through: those that are not clean in the end, if
propagation is complete and the flow flagged, and all nodes else. -/
def MayPass (finding : Finding) (graph : FlowGraph) (deadline : Deadline)
    (registry : BarrierRegistry) (limits : PropagationLimits) (number : Nat) : Prop :=
  (graph.propagateBefore deadline registry limits).status = .complete →
    finding.verdict = .flagged → ∀ run,
      graph.finishedRun? deadline registry limits finding.source.node = some run →
      run.isCleanAt number = false

/-- The test that nodes pass in the search for the path of the finding. -/
def admits (finding : Finding) (graph : FlowGraph) (deadline : Deadline)
    (registry : BarrierRegistry) (limits : PropagationLimits) (number : Nat) : Bool :=
  match finding.verdict, graph.finishedRun? deadline registry limits finding.source.node with
  | .flagged, some run => number == finding.sink.node || !run.isCleanAt number
  | _, _ => (graph.reachableFrom finding.source.node).getD number false

/-- The search for the path of the finding comes to the sink on the way, so the path is not made up of
the two ends. -/
def IsFoundOn (finding : Finding) (graph : FlowGraph) (deadline : Deadline)
    (registry : BarrierRegistry) (limits : PropagationLimits) (way : List Nat) : Prop :=
  finding = graph.finding limits finding.source.node finding.sink.node
      (finding.admits graph deadline registry limits) finding.verdict finding.barriers
      finding.unstable ∧
    graph.searchPath (finding.admits graph deadline registry limits) finding.sink.node
      graph.nodes.size [(finding.source.node, [])] [finding.source.node] =
        some (finding.source.node :: way)

/-- The path of the finding is the way, or its first nodes and the sink where the whole way is too
long. -/
structure Shows (finding : Finding) (graph : FlowGraph) (limits : PropagationLimits)
    (way : List Nat) : Prop where
  whole : (finding.source.node :: way).length ≤ max 2 limits.maxPathLength →
    finding.path = (finding.source.node :: way).map graph.pathStep
  cut : max 2 limits.maxPathLength < (finding.source.node :: way).length →
    finding.path = ((finding.source.node :: way).take (max 2 limits.maxPathLength - 1) ++
      [finding.sink.node]).map graph.pathStep

/-- A finding is among others if what is seen of it is what is seen of them. -/
theorem exists_of_map_singleton {View : Type} {findings : List Finding} {view : Finding → View}
    {seen : View} (same : findings.map view = [seen]) : ∃ finding ∈ findings, view finding = seen := by
  rw [← List.mem_map, same]
  exact List.mem_singleton_self seen

theorem isFoundOn_of_searchPath {source sink : Nat} {test : Nat → Bool} {verdict : Verdict}
    {barriers : List AppliedBarrier} {unstable : Bool} {way : List Nat}
    (same : finding = graph.finding limits source sink test verdict barriers unstable)
    (tests : finding.admits graph deadline registry limits = test)
    (found : graph.searchPath test sink graph.nodes.size [(source, [])] [source] =
      some (source :: way)) : finding.IsFoundOn graph deadline registry limits way := by
  have ends : finding.ends = (source, sink) := by
    rw [same]
    exact FlowGraph.ends_finding source sink test verdict barriers unstable
  obtain ⟨isSource, isSink⟩ := Prod.mk.inj ends
  rw [IsFoundOn, tests, isSource, isSink]
  refine ⟨?_, found⟩
  rw [same]
  rfl

/-- A finding shows the way on which its sink was found. -/
theorem IsFoundOn.shows {way : List Nat}
    (isFound : finding.IsFoundOn graph deadline registry limits way)
    (isWay : graph.Way finding.source.node way finding.sink.node) :
    finding.Shows graph limits way := by
  obtain ⟨same, found⟩ := isFound
  have path : finding.path =
      (FlowGraph.shortened limits.maxPathLength (finding.source.node :: way)).map
        graph.pathStep := by
    rw [same]
    simp only [FlowGraph.finding, FlowGraph.shortestPath, FlowGraph.node_pathStep, found,
      Option.getD_some]
  rw [FlowGraph.shortened, Nat.max_comm] at path
  constructor
  · intro fits
    rw [path, if_pos fits]
  · intro tooLong
    have last : (finding.source.node :: way).getLast? = some finding.sink.node := isWay.getLast?_eq
    rw [path, if_neg (Nat.not_le.2 tooLong), last, Option.toList_some]

/-- The source and the sink of a finding as steps are those of its path. -/
theorem IsFoundOn.pathStep_ends {way : List Nat}
    (isFound : finding.IsFoundOn graph deadline registry limits way) :
    graph.pathStep finding.source.node = finding.source ∧
      graph.pathStep finding.sink.node = finding.sink := by
  obtain ⟨same, -⟩ := isFound
  constructor
  · rw [same, FlowGraph.finding, FlowGraph.node_pathStep]
  · rw [same, FlowGraph.finding, FlowGraph.node_pathStep]

/-- A path begins with the source of the finding and ends with its sink, and the limit bounds it. -/
theorem IsFoundOn.ends_path {way : List Nat}
    (isFound : finding.IsFoundOn graph deadline registry limits way)
    (isWay : graph.Way finding.source.node way finding.sink.node)
    (different : finding.source.node ≠ finding.sink.node) :
    finding.path.head? = some finding.source ∧ finding.path.getLast? = some finding.sink ∧
      2 ≤ finding.path.length ∧ finding.path.length ≤ max 2 limits.maxPathLength := by
  have shows := isFound.shows isWay
  obtain ⟨source, sink⟩ := isFound.pathStep_ends
  have last : (finding.source.node :: way).getLast? = some finding.sink.node := isWay.getLast?_eq
  have long : 2 ≤ (finding.source.node :: way).length := by
    rcases way with - | ⟨next, rest⟩
    · exact absurd (Option.some.inj last) different
    · simp only [List.length_cons]
      omega
  by_cases fits : (finding.source.node :: way).length ≤ max 2 limits.maxPathLength
  · rw [shows.whole fits]
    refine ⟨?_, ?_, ?_, ?_⟩
    · rw [List.map_cons, List.head?_cons, source]
    · rw [List.getLast?_map, last, Option.map_some, sink]
    · rwa [List.length_map]
    · rwa [List.length_map]
  · -- At least the source is left in front of the sink, as the limit is never below two.
    obtain ⟨room, more⟩ : ∃ room, max 2 limits.maxPathLength - 1 = room + 1 :=
      ⟨max 2 limits.maxPathLength - 2, by omega⟩
    rw [shows.cut (Nat.lt_of_not_le fits), more, List.take_succ_cons]
    simp only [List.length_cons] at fits long
    refine ⟨?_, ?_, ?_, ?_⟩
    · rw [List.cons_append, List.map_cons, List.head?_cons, source]
    · rw [List.map_append, List.map_singleton, List.getLast?_concat, sink]
    · simp only [List.length_map, List.length_append, List.length_cons]
      omega
    · simp only [List.length_map, List.length_append, List.length_cons, List.length_take,
        List.length_nil]
      omega

/-- The path of the finding shows a shortest way to its sink, which is tainted all along if
propagation is complete and the flow flagged. -/
structure IsShownOn (finding : Finding) (graph : FlowGraph) (deadline : Deadline)
    (registry : BarrierRegistry) (limits : PropagationLimits) (way : List Nat) : Prop where
  shortest : graph.IsShortestWay (finding.MayPass graph deadline registry limits)
    finding.source.node way finding.sink.node
  found : finding.IsFoundOn graph deadline registry limits way
  tainted : (graph.propagateBefore deadline registry limits).status = .complete → ∃ run,
    graph.finishedRun? deadline registry limits finding.source.node = some run ∧
    (finding.verdict = .flagged →
      ∀ number ∈ finding.source.node :: way, (run.values.at number).isTainted = true)

end Finding

namespace FlowGraph

variable {graph : FlowGraph} {registry : BarrierRegistry} {limits : PropagationLimits}
  {deadline : Deadline}

/-- Ways through nodes with one of two equivalent properties are the same. -/
theorem IsShortestWay.congr {through through' : Nat → Prop} {first last : Nat} {way : List Nat}
    (isShortest : graph.IsShortestWay through first way last)
    (same : ∀ number, through number ↔ through' number) :
    graph.IsShortestWay through' first way last := by
  obtain rfl : through = through' := funext fun number => propext (same number)
  exact isShortest

/-- Each finding of a finished run is shown on a way. -/
theorem isShownOn_of_finished (wellFormed : graph.IsWellFormed) {run : SourceRun}
    (complete : (graph.propagateBefore deadline registry limits).status = .complete)
    (isSource : run.seed ∈ graph.sources) (done : run.pending = [])
    (reaches : SourceRun.Reaches graph registry (.start graph run.seed) run)
    (isRun : graph.finishedRun? deadline registry limits run.seed = some run) {finding : Finding}
    (isFinding : finding ∈ graph.findingsOf limits run) :
    ∃ way, finding.IsShownOn graph deadline registry limits way := by
  obtain ⟨sink, lookedAt, isFound⟩ := mem_findingsOf.1 isFinding
  obtain ⟨sourceEnd, sinkEnd⟩ := Prod.mk.inj (ends_sinkFinding isFound)
  rcases sinkFinding_cases isFound with ⟨tainted, same⟩ | ⟨-, -, same⟩
  · have flagged : finding.verdict = .flagged := same ▸ rfl
    obtain ⟨way, found, isShortest, allTainted⟩ :=
      SourceRun.searchPath_of_tainted wellFormed isSource reaches done tainted
    have tests : finding.admits graph deadline registry limits =
        fun node => node == sink || !run.isCleanAt node := by
      funext number
      rw [Finding.admits, flagged, sourceEnd, sinkEnd, isRun]
    refine ⟨way, ?_, Finding.isFoundOn_of_searchPath same tests found, fun _ => ⟨run, ?_, fun _ => ?_⟩⟩
    · rw [sourceEnd, sinkEnd]
      refine isShortest.congr fun number => ⟨?_, ?_⟩
      · intro dirty _ _ other isOther
        rw [sourceEnd, isRun] at isOther
        exact Option.some.inj isOther ▸ dirty
      · exact fun mayPass => mayPass complete flagged run (sourceEnd ▸ isRun)
    · rw [sourceEnd, isRun]
    · rwa [sourceEnd]
  · have suppressed : finding.verdict = .suppressedByBarrier := same ▸ rfl
    obtain ⟨way, found, isShortest⟩ := searchPath_of_connects wellFormed
      ((mem_sinksWithin_iff_connects wellFormed isSource).1 lookedAt)
    have tests : finding.admits graph deadline registry limits =
        fun node => (graph.reachableFrom run.seed).getD node false := by
      funext number
      rw [Finding.admits, suppressed, sourceEnd]
    refine ⟨way, ?_, Finding.isFoundOn_of_searchPath same tests found,
      fun _ => ⟨run, ?_, fun flagged => ?_⟩⟩
    · rw [sourceEnd, sinkEnd]
      refine isShortest.congr fun number => iff_of_true trivial fun _ flagged => ?_
      exact nomatch suppressed.symm.trans flagged
    · rw [sourceEnd, isRun]
    · exact nomatch suppressed.symm.trans flagged

/-- A finding of a complete outcome is one of the finished run from a source. -/
theorem finishedRun_of_mem_findings (wellFormed : graph.IsWellFormed)
    (complete : (graph.propagateBefore deadline registry limits).status = .complete)
    {finding : Finding}
    (member : finding ∈ (graph.propagateBefore deadline registry limits).findings) :
    ∃ run, run.seed ∈ graph.sources ∧ run.pending = [] ∧
      SourceRun.Reaches graph registry (.start graph run.seed) run ∧
      graph.finishedRun? deadline registry limits run.seed = some run ∧
      finding ∈ graph.findingsOf limits run := by
  obtain ⟨runs, seeds, finished, findings⟩ := finishedRuns_of_complete wellFormed complete
  rw [findings, Finding.mem_sorted, List.mem_flatMap] at member
  obtain ⟨run, isRun, isFinding⟩ := member
  obtain ⟨done, reaches, finishedRun⟩ := finished run isRun
  exact ⟨run, seeds ▸ List.mem_map_of_mem isRun, done, reaches, finishedRun, isFinding⟩

/-- Each finding is shown on a way. -/
theorem exists_isShownOn (wellFormed : graph.IsWellFormed) {finding : Finding}
    (member : finding ∈ (graph.propagateBefore deadline registry limits).findings) :
    ∃ way, finding.IsShownOn graph deadline registry limits way := by
  rcases propagateBefore_cases deadline graph registry limits with
    ⟨complete, -⟩ | ⟨unstable, findings⟩
  · obtain ⟨run, isSource, done, reaches, finishedRun, isFinding⟩ :=
      finishedRun_of_mem_findings wellFormed complete member
    exact isShownOn_of_finished wellFormed complete isSource done reaches finishedRun isFinding
  · have incomplete : (graph.propagateBefore deadline registry limits).status ≠ .complete := by
      rwa [PropagationOutcome.isUnstable, bne_iff_ne] at unstable
    rw [findings, Finding.mem_sorted, List.mem_flatMap] at member
    obtain ⟨source, isSource, isFinding⟩ := member
    obtain ⟨sink, lookedAt, same⟩ := mem_reachabilityFindings.1 isFinding
    have ends : finding.ends = (source, sink) := by
      rw [← same]
      exact ends_finding source sink _ _ _ _
    obtain ⟨sourceEnd, sinkEnd⟩ := Prod.mk.inj ends
    have flagged : finding.verdict = .flagged := same ▸ rfl
    have tests : finding.admits graph deadline registry limits =
        fun node => (graph.reachableFrom source).getD node false := by
      funext number
      rw [Finding.admits, flagged, finishedRun_of_unstable unstable, sourceEnd]
    obtain ⟨way, found, isShortest⟩ := searchPath_of_connects wellFormed
      ((mem_sinksWithin_iff_connects wellFormed isSource).1 lookedAt)
    refine ⟨way, ?_, Finding.isFoundOn_of_searchPath same.symm tests found, fun complete => ?_⟩
    · rw [sourceEnd, sinkEnd]
      exact isShortest.congr fun number => iff_of_true trivial fun complete =>
        absurd complete incomplete
    · exact absurd complete incomplete

/-- The path of a finding leads from its source to its sink within the limit.  It shows a shortest way
that enters no node twice, whole or with nodes left out before the sink: through nodes that are not
clean in the end, all of which are tainted, if propagation is complete and the flow flagged, and through
any nodes else.  The search always finds that way. -/
theorem propagateBefore_paths {catalog : Catalog} {unitConstants : StringMap String}
    {procedure : Procedure} (built : build catalog unitConstants procedure = .ok graph)
    (deadline : Deadline) (registry : BarrierRegistry) (limits : PropagationLimits)
    {finding : Finding}
    (member : finding ∈ (graph.propagateBefore deadline registry limits).findings) :
    finding.path.head? = some finding.source ∧ finding.path.getLast? = some finding.sink ∧
    2 ≤ finding.path.length ∧ finding.path.length ≤ max 2 limits.maxPathLength ∧
    ∃ way, finding.IsShownOn graph deadline registry limits way ∧
      finding.Shows graph limits way := by
  have wellFormed := isWellFormed_of_build built
  obtain ⟨way, isShown⟩ := exists_isShownOn wellFormed member
  obtain ⟨isSource, isSink, -⟩ := connects_of_mem_findings wellFormed member
  have isWay := isShown.shortest.isWay
  obtain ⟨first, last, atLeast, atMost⟩ :=
    isShown.found.ends_path isWay (ne_of_source_of_sink wellFormed isSource isSink)
  exact ⟨first, last, atLeast, atMost, way, isShown, isShown.found.shows isWay⟩

/-- The flow through the loop that decodes a path takes five steps; the guard behind the loop is left
out where four may be shown. -/
theorem propagateBefore_decodingLoop_path :
    build DecodingLoop.catalog .empty DecodingLoop.procedure = .ok DecodingLoop.graph ∧
    (DecodingLoop.graph.propagateBefore ⟨some 0, id, id⟩ (.standard ⟨true⟩)
      ⟨50, 4, true⟩).status = .complete ∧
    ∃ finding ∈ (DecodingLoop.graph.propagateBefore ⟨some 0, id, id⟩ (.standard ⟨true⟩)
        ⟨50, 4, true⟩).findings,
      finding.verdict = .flagged ∧ finding.path.map PathStep.node = [0, 1, 2, 9] ∧
      finding.path.length ≤ max 2 4 ∧
      ∃ way, finding.IsShownOn DecodingLoop.graph ⟨some 0, id, id⟩ (.standard ⟨true⟩)
          ⟨50, 4, true⟩ way ∧
        finding.Shows DecodingLoop.graph ⟨50, 4, true⟩ way := by
  have complete : (DecodingLoop.graph.propagateBefore ⟨some 0, id, id⟩ (.standard ⟨true⟩)
      ⟨50, 4, true⟩).status = .complete := by cbv
  have found : (DecodingLoop.graph.propagateBefore ⟨some 0, id, id⟩ (.standard ⟨true⟩)
      ⟨50, 4, true⟩).findings.map (fun finding => (finding.verdict, finding.path.map PathStep.node)) =
        [(.flagged, [0, 1, 2, 9])] := by cbv
  obtain ⟨finding, member, shown⟩ := Finding.exists_of_map_singleton found
  obtain ⟨verdict, nodes⟩ := Prod.mk.inj shown
  obtain ⟨-, -, -, atMost, isShown⟩ := propagateBefore_paths DecodingLoop.build_eq
    ⟨some 0, id, id⟩ (.standard ⟨true⟩) ⟨50, 4, true⟩ member
  exact ⟨DecodingLoop.build_eq, complete, finding, member, verdict, nodes, atMost, isShown⟩

end FlowGraph

end ForwardTaint
