import ForwardTaint.Proofs.ReportedPaths

/-!
Where the path of a finding enters its sink: of all nodes that lead there, from one that is nearest to
the source.  That is a checked argument where each other node that leads to the sink is farther away
than some checked argument; a receiver or an argument that is not checked takes its place where it is
nearer.
-/

namespace ForwardTaint

namespace FlowGraph

/-- The way leads through nodes with a property to a node from which taint enters the sink. -/
structure LeadsInto (graph : FlowGraph) (through : Nat → Prop) (source : Nat) (way : List Nat)
    (entry sink : Nat) : Prop where
  isWay : graph.Way source way entry
  passes : ∀ number ∈ source :: way, through number
  enters : graph.TaintStep entry sink

variable {graph : FlowGraph} {through : Nat → Prop} {source sink : Nat}

/-- A shortest way comes to the sink from a nearest one of the nodes that lead there. -/
theorem IsShortestWay.nearest_entry {way : List Nat}
    (isShortest : graph.IsShortestWay through source way sink) (different : source ≠ sink) :
    ∃ before entry, way = before ++ [sink] ∧ graph.LeadsInto through source before entry sink ∧
      ∀ other lead, graph.LeadsInto through source other lead sink →
        before.length ≤ other.length := by
  rcases List.eq_nil_or_concat way with rfl | ⟨before, last, rfl⟩
  · exact absurd (Option.some.inj isShortest.isWay.getLast?_eq) different
  · rw [List.concat_eq_append] at isShortest ⊢
    obtain ⟨entry, isWay, enters, rfl⟩ := way_concat_iff.1 isShortest.isWay
    have passes := isShortest.passes
    rw [← List.cons_append, List.forall_mem_append, List.forall_mem_singleton] at passes
    refine ⟨before, entry, rfl, ⟨isWay, passes.1, enters⟩, fun other lead leads => ?_⟩
    have further : graph.Way source (other ++ [last]) last :=
      way_concat_iff.2 ⟨lead, leads.isWay, leads.enters, rfl⟩
    have shortest := isShortest.shortest (other ++ [last]) further (by
      rw [← List.cons_append, List.forall_mem_append, List.forall_mem_singleton]
      exact ⟨leads.passes, passes.2⟩)
    simp only [List.length_append, List.length_singleton] at shortest
    omega

variable {registry : BarrierRegistry} {limits : PropagationLimits} {deadline : Deadline}

/-- A way through the nodes that the path of a finding may go through leads to a checked argument. -/
theorem exists_leadsInto_argument (wellFormed : graph.IsWellFormed) {finding : Finding}
    (member : finding ∈ (graph.propagateBefore deadline registry limits).findings) :
    ∃ argument ∈ graph.sinkArguments finding.sink.node, ∃ way,
      graph.LeadsInto (finding.MayPass graph deadline registry limits) finding.source.node way
        argument finding.sink.node := by
  by_cases isKept : (graph.propagateBefore deadline registry limits).status = .complete ∧
      finding.verdict = .flagged
  · obtain ⟨complete, flagged⟩ := isKept
    obtain ⟨run, isSource, done, reaches, finishedRun, isFinding⟩ :=
      finishedRun_of_mem_findings wellFormed complete member
    obtain ⟨sink, -, isFound⟩ := mem_findingsOf.1 isFinding
    obtain ⟨sourceEnd, sinkEnd⟩ := Prod.mk.inj (ends_sinkFinding isFound)
    rcases sinkFinding_cases isFound with ⟨tainted, -⟩ | ⟨-, -, same⟩
    · obtain ⟨seed, present, kind⟩ := wellFormed.mem_sources.1 isSource
      obtain ⟨argument, isArgument, isOpen⟩ :=
        (isTainted_sinkArguments wellFormed isSource reaches done sink).1 tainted
      obtain ⟨way, isWay, areOpen⟩ := isOpen.exists_way
      rw [sourceEnd, sinkEnd]
      refine ⟨argument, isArgument, way, isWay, ?_, taintStep_of_mem_sinkArguments isArgument⟩
      intro number onWay _ _ other isOther
      rw [sourceEnd, finishedRun] at isOther
      obtain rfl := Option.some.inj isOther
      exact TaintValue.isClean_of_isTainted
        ((SourceRun.isTainted_iff_openPath wellFormed present kind reaches done).2
          (areOpen number onWay))
    · rw [same] at flagged
      exact nomatch flagged
  · -- All nodes may be passed here, so any way of taint will do.
    obtain ⟨-, -, argument, isArgument, path⟩ := connects_of_mem_findings wellFormed member
    obtain ⟨way, isWay⟩ := exists_way path
    refine ⟨argument, isArgument, way, isWay, ?_, taintStep_of_mem_sinkArguments isArgument⟩
    exact fun _ _ complete flagged => absurd ⟨complete, flagged⟩ isKept

end FlowGraph

/-- The path of the finding comes to the sink from the entry, to which the way leads; no node that
leads to the sink is nearer to the source. -/
structure Finding.EntersFrom (finding : Finding) (graph : FlowGraph) (deadline : Deadline)
    (registry : BarrierRegistry) (limits : PropagationLimits) (way : List Nat) (entry : Nat) :
    Prop where
  shown : finding.IsShownOn graph deadline registry limits (way ++ [finding.sink.node])
  leads : graph.LeadsInto (finding.MayPass graph deadline registry limits) finding.source.node way
    entry finding.sink.node
  nearest : ∀ other lead, graph.LeadsInto (finding.MayPass graph deadline registry limits)
    finding.source.node other lead finding.sink.node → way.length ≤ other.length
  before_sink : way.length + 2 ≤ max 2 limits.maxPathLength →
    ∃ start, finding.path = start ++ [graph.pathStep entry, finding.sink]

namespace FlowGraph

variable {graph : FlowGraph} {registry : BarrierRegistry} {limits : PropagationLimits}
  {deadline : Deadline}

/-- The step before the sink of a path that is not cut is a nearest one of the nodes that lead to the
sink.  There is a checked argument among those nodes, and the step before the sink is one if each other
node that leads to the sink is farther from the source than a checked argument. -/
theorem propagateBefore_enters_nearest {catalog : Catalog} {unitConstants : StringMap String}
    {procedure : Procedure} (built : build catalog unitConstants procedure = .ok graph)
    (deadline : Deadline) (registry : BarrierRegistry) (limits : PropagationLimits)
    {finding : Finding}
    (member : finding ∈ (graph.propagateBefore deadline registry limits).findings) :
    ∃ way entry, finding.EntersFrom graph deadline registry limits way entry ∧
      (∃ argument ∈ graph.sinkArguments finding.sink.node, ∃ other,
        graph.LeadsInto (finding.MayPass graph deadline registry limits) finding.source.node other
          argument finding.sink.node) ∧
      ((∀ lead, lead ∉ graph.sinkArguments finding.sink.node → ∀ other,
          graph.LeadsInto (finding.MayPass graph deadline registry limits) finding.source.node other
            lead finding.sink.node →
          ∃ argument ∈ graph.sinkArguments finding.sink.node, ∃ nearer,
            graph.LeadsInto (finding.MayPass graph deadline registry limits) finding.source.node
              nearer argument finding.sink.node ∧ nearer.length < other.length) →
        entry ∈ graph.sinkArguments finding.sink.node) := by
  have wellFormed := isWellFormed_of_build built
  obtain ⟨whole, isShown⟩ := exists_isShownOn wellFormed member
  obtain ⟨isSource, isSink, -⟩ := connects_of_mem_findings wellFormed member
  obtain ⟨way, entry, rfl, leads, nearest⟩ :=
    isShown.shortest.nearest_entry (ne_of_source_of_sink wellFormed isSource isSink)
  refine ⟨way, entry, ⟨isShown, leads, nearest, fun fits => ?_⟩,
    exists_leadsInto_argument wellFormed member, fun checkedNearer => ?_⟩
  · have shows := isShown.found.shows isShown.shortest.isWay
    obtain ⟨start, toEntry⟩ := List.getLast?_eq_some_iff.1 leads.isWay.getLast?_eq
    have whole := shows.whole (by
      rwa [List.length_cons, List.length_append, List.length_singleton])
    refine ⟨start.map graph.pathStep, ?_⟩
    rw [whole, ← List.cons_append, toEntry, List.map_append, List.map_append, List.append_assoc,
      List.map_singleton, List.map_singleton, isShown.found.pathStep_ends.2]
    rfl
  · by_contra unchecked
    obtain ⟨argument, -, nearer, leadsNearer, shorter⟩ := checkedNearer entry unchecked way leads
    have atLeast := nearest nearer argument leadsNearer
    omega

/-- The flow through the loop that decodes a path is shown whole where ten steps may be; all that leads
to the forward is its checked argument. -/
theorem propagateBefore_decodingLoop_entry :
    build DecodingLoop.catalog .empty DecodingLoop.procedure = .ok DecodingLoop.graph ∧
    ∃ finding ∈ (DecodingLoop.graph.propagateBefore ⟨some 0, id, id⟩ (.standard ⟨true⟩)
        ⟨50, 10, true⟩).findings,
      finding.path.map PathStep.node = [0, 1, 2, 8, 9] ∧
      ∃ way entry, finding.EntersFrom DecodingLoop.graph ⟨some 0, id, id⟩ (.standard ⟨true⟩)
          ⟨50, 10, true⟩ way entry ∧
        entry ∈ DecodingLoop.graph.sinkArguments finding.sink.node := by
  have found : (DecodingLoop.graph.propagateBefore ⟨some 0, id, id⟩ (.standard ⟨true⟩)
      ⟨50, 10, true⟩).findings.map (fun finding =>
        (finding.sink.node, finding.path.map PathStep.node)) = [(9, [0, 1, 2, 8, 9])] := by cbv
  obtain ⟨finding, member, shown⟩ := Finding.exists_of_map_singleton found
  obtain ⟨sink, nodes⟩ := Prod.mk.inj shown
  obtain ⟨way, entry, enters, -, checked⟩ := propagateBefore_enters_nearest DecodingLoop.build_eq
    ⟨some 0, id, id⟩ (.standard ⟨true⟩) ⟨50, 10, true⟩ member
  refine ⟨DecodingLoop.build_eq, finding, member, nodes, way, entry, enters, checked ?_⟩
  intro lead unchecked other leads
  have leadsTo := mem_taintSources.2 leads.enters
  rw [sink] at leadsTo unchecked
  have onlyArgument : ∀ number ∈ DecodingLoop.graph.taintSources 9,
      number ∈ DecodingLoop.graph.sinkArguments 9 := by decide
  exact absurd (onlyArgument lead leadsTo) unchecked

end FlowGraph

namespace ReceiverEntry

def procedure : Procedure :=
  { Procedure.named "serve" with
    body := [
      .declare "url" none (some (.localCall "getParameter" [])) .zero,
      .declare "path" none (some (.variable "url")) .zero,
      .branch (.methodCall (.variable "path") "equals" [.literal "/home"])
        [.evaluate (.methodCall (.variable "url") "forward" [.variable "path"]) .zero] none
        .zero] }

def graph : FlowGraph where
  procedureName := "serve"
  nodes := #[
    ⟨.sourceCall, "getParameter()", .zero, none⟩,
    ⟨.variableRef, "url = getParameter()", .zero, some "url"⟩,
    ⟨.variableRef, "path = url", .zero, some "path"⟩,
    ⟨.literal, "/home", .zero, none⟩,
    ⟨.call, "path.equals(\"/home\")", .zero, none⟩,
    ⟨.guard 0 true, "path.equals(\"/home\") [true]", .zero, some "path"⟩,
    ⟨.sinkCall [0], "url.forward(path)", .zero, none⟩,
    ⟨.guard 0 false, "path.equals(\"/home\") [false]", .zero, some "path"⟩,
    ⟨.phi, "join path", .zero, some "path"⟩]
  edges := [
    ⟨7, 8, .plain .join⟩, ⟨5, 8, .plain .join⟩, ⟨2, 7, .refinement 0 false⟩,
    ⟨5, 6, .plain (.argument 0)⟩, ⟨1, 6, .plain .receiver⟩, ⟨2, 5, .refinement 0 true⟩,
    ⟨3, 4, .plain (.argument 0)⟩, ⟨2, 4, .plain .receiver⟩, ⟨1, 2, .plain .assign⟩,
    ⟨0, 1, .plain .assign⟩]
  guards := #[HomeForward.guard]
  sources := [0]
  sinks := [6]

theorem build_eq : FlowGraph.build DecodingLoop.catalog .empty procedure = .ok graph := by
  cbv

/-- The path of the suppressed flow comes to the sink from the receiver, and is not cut; the checked
argument is the guard that stops the flow, which the path does not show. -/
theorem path_enters_by_receiver :
    FlowGraph.build DecodingLoop.catalog .empty procedure = .ok graph ∧
    (graph.propagate (.standard ⟨false⟩) ⟨50, 10, true⟩).status = .complete ∧
    ∃ finding ∈ (graph.propagate (.standard ⟨false⟩) ⟨50, 10, true⟩).findings,
      finding.verdict = .suppressedByBarrier ∧
      finding.path = [graph.pathStep 0, graph.pathStep 1, graph.pathStep 6] ∧
      finding.path.length < 10 ∧
      graph.sinkArguments finding.sink.node = [5] ∧
      finding.barriers.map AppliedBarrier.guard = [0] ∧
      ¬∃ start argument, argument ∈ graph.sinkArguments finding.sink.node ∧
        finding.path = start ++ [graph.pathStep argument, finding.sink] := by
  have complete : (graph.propagate (.standard ⟨false⟩) ⟨50, 10, true⟩).status = .complete := by cbv
  have found : ((graph.propagate (.standard ⟨false⟩) ⟨50, 10, true⟩).findings.map fun finding =>
      (finding.sink.node, finding.verdict, finding.path, finding.barriers.map AppliedBarrier.guard)) =
        [(6, .suppressedByBarrier, [graph.pathStep 0, graph.pathStep 1, graph.pathStep 6], [0])] := by
    cbv
  obtain ⟨finding, member, shown⟩ := Finding.exists_of_map_singleton found
  obtain ⟨sink, shown⟩ := Prod.mk.inj shown
  obtain ⟨suppressed, shown⟩ := Prod.mk.inj shown
  obtain ⟨path, barriers⟩ := Prod.mk.inj shown
  have arguments : graph.sinkArguments finding.sink.node = [5] := by
    rw [sink]
    decide
  refine ⟨build_eq, complete, finding, member, suppressed, path, ?_, arguments, barriers, ?_⟩
  · rw [path]
    decide
  · rintro ⟨start, argument, isArgument, enters⟩
    rw [arguments, List.mem_singleton] at isArgument
    -- Read backwards both lists begin with the sink, and next come the receiver and the guard.
    have backwards := congrArg (fun path => (path.map PathStep.node).reverse) enters
    simp [path, isArgument, sink, FlowGraph.node_pathStep] at backwards

end ReceiverEntry

end ForwardTaint
