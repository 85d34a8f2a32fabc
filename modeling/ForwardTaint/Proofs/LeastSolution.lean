import ForwardTaint.Proofs.GraphConstruction
import ForwardTaint.Proofs.WorkList

/-!
Runs with a registry that judges lower values no less effective.  Values only climb, stay below
every solution and never fail to gain in badness; so a run that ends has found the least solution,
in whatever order it looked at the nodes and however the edges are listed.
-/

namespace ForwardTaint

namespace FlowGraph

variable {graph reordered : FlowGraph} {registry : BarrierRegistry} {seed : Nat}

/-- The graph is the other one with its edges listed in some order. -/
structure Reorders (reordered graph : FlowGraph) : Prop where
  nodes : reordered.nodes = graph.nodes
  guards : reordered.guards = graph.guards
  edges : reordered.edges.Perm graph.edges

theorem Reorders.symm (reorders : Reorders reordered graph) : Reorders graph reordered :=
  ⟨reorders.nodes.symm, reorders.guards.symm, reorders.edges.symm⟩

/-- Nodes do the same to canonical values however the edges are listed. -/
theorem Reorders.transfer_eq (reorders : Reorders reordered graph) {values : NodeValues}
    (canonical : values.AreCanonical) (number : Nat) (node : FlowNode) :
    reordered.transfer registry seed values number node =
      graph.transfer registry seed values number node := by
  have permuted : (reordered.taintSources number).Perm (graph.taintSources number) :=
    ((reorders.edges.filter _).filter _).map _
  have input : reordered.input values number = graph.input values number :=
    NodeValues.joined_perm canonical permuted
  have sameEmpty : (reordered.taintSources number).isEmpty = (graph.taintSources number).isEmpty := by
    rw [Bool.eq_iff_iff, List.isEmpty_iff, List.isEmpty_iff]
    exact ⟨fun isEmpty => (isEmpty ▸ permuted).nil_eq.symm, fun isEmpty => (isEmpty ▸ permuted).eq_nil⟩
  unfold transfer
  rw [input, sameEmpty]
  unfold guardOutput
  rw [reorders.guards]

/-- A canonical solution is one however the edges are listed. -/
theorem Reorders.isSolution (reorders : Reorders reordered graph) {values : NodeValues}
    (canonical : values.AreCanonical) (solution : graph.IsSolution registry seed values) :
    reordered.IsSolution registry seed values where
  size := by rw [reorders.nodes, solution.size]
  agrees number node present := by
    rw [reorders.transfer_eq canonical]
    exact solution.agrees number node (reorders.nodes ▸ present)

end FlowGraph

namespace SourceRun

variable {graph : FlowGraph} {registry : BarrierRegistry}

/-- The values of a run may still climb, but not above any solution. -/
structure IsAscending (graph : FlowGraph) (registry : BarrierRegistry) (run : SourceRun) :
    Prop where
  canonical : run.values.AreCanonical
  holds : ∀ number, graph.Holds (run.values.at number)
  ascends : ∀ number node, graph.nodes[number]? = some node →
    (run.values.at number).leq
      (graph.transfer registry run.seed run.values number node).value = true
  belowSolutions : ∀ other, graph.IsSolution registry run.seed other → run.values.Below other

/-- All values are clean at the beginning. -/
theorem at_start (graph : FlowGraph) (seed number : Nat) :
    (start graph seed).values.at number = .clean := by
  unfold NodeValues.at start
  rw [Array.getD_eq_getD_getElem?, Array.getElem?_replicate]
  split <;> rfl

theorem isAscending_start (graph : FlowGraph) (registry : BarrierRegistry) (seed : Nat) :
    IsAscending graph registry (start graph seed) where
  canonical number := by
    rw [at_start]
    exact TaintValue.canonical_clean
  holds number := by
    rw [at_start]
    exact FlowGraph.holds_of_no_checks rfl
  ascends number node present := by
    rw [at_start]
    exact TaintValue.leq_of_clean TaintValue.isClean_clean
  belowSolutions other solution number := by
    rw [at_start]
    exact TaintValue.leq_of_clean TaintValue.isClean_clean

/-- A look at a node keeps runs ascending: what the node does grows with the values. -/
theorem isAscending_of_visited (antitone : registry.IsAntitone) {run next : SourceRun}
    {number : Nat} {node : FlowNode} (ascending : IsAscending graph registry run)
    (present : graph.nodes[number]? = some node)
    (visited : Visited graph registry run number node next) :
    IsAscending graph registry next where
  canonical other := by
    rw [visited.value]
    split
    · exact FlowGraph.canonical_transfer ascending.canonical number node
    · exact ascending.canonical other
  holds other := by
    rw [visited.value]
    split
    · exact FlowGraph.holds_transfer ascending.holds number node
    · exact ascending.holds other
  ascends other otherNode otherPresent := by
    rw [visited.seed]
    refine TaintValue.leq_trans ?_
      (FlowGraph.transfer_mono antitone visited.below other otherNode)
    rw [visited.value]
    split
    · rename_i same
      subst same
      obtain rfl : node = otherNode := Option.some.inj (present.symm.trans otherPresent)
      exact TaintValue.leq_refl _
    · exact ascending.ascends other otherNode otherPresent
  belowSolutions solution isSolution other := by
    rw [visited.seed] at isSolution
    have below := ascending.belowSolutions solution isSolution
    rw [visited.value]
    split
    · rename_i same
      rw [same, isSolution.agrees number node present]
      exact FlowGraph.transfer_mono antitone below number node
    · exact below other

/-- The value at a node of an ascending run climbs whenever it changes. -/
theorem visit_isOk {run : SourceRun} {effort : Effort} {number : Nat} {node : FlowNode}
    (fits : graph.atomCount + 8 < UInt32.size) (ascending : IsAscending graph registry run)
    (present : graph.nodes[number]? = some node) (interruption : Interruption) :
    visit graph registry run effort number node ≠ .error interruption := by
  unfold visit
  simp only [values_record]
  split
  · simp
  · rename_i different
    have below := ascending.ascends number node present
    have gains := TaintValue.badness_lt fits
      (FlowGraph.size_le_atomCount (ascending.holds number)) (ascending.canonical number)
      (FlowGraph.canonical_transfer ascending.canonical number node) below (Ne.symm different)
    rw [climbs, below, decide_eq_true gains]
    simp

theorem isAscending_of_reaches (antitone : registry.IsAntitone) {run next : SourceRun}
    (consistent : IsConsistent graph registry run) (ascending : IsAscending graph registry run)
    (reaches : Reaches graph registry run next) : IsAscending graph registry next := by
  induction reaches with
  | refl => exact ascending
  | tail before step inductionHypothesis =>
      cases step with
      | visit chosen present visited =>
          refine isAscending_of_visited antitone ?_ present
            (visited_of_chosen (isConsistent_of_reaches consistent before) present visited)
          exact ⟨inductionHypothesis.canonical, inductionHypothesis.holds,
            inductionHypothesis.ascends, inductionHypothesis.belowSolutions⟩
      | skip =>
          exact ⟨inductionHypothesis.canonical, inductionHypothesis.holds,
            inductionHypothesis.ascends, inductionHypothesis.belowSolutions⟩

/-- Propagation never meets a value that does not climb. -/
theorem settleBefore_monotone (antitone : registry.IsAntitone)
    (fits : graph.atomCount + 8 < UInt32.size) (deadline : Deadline) (seed budget : Nat)
    (effort : Effort) (number : Nat) (effort' : Effort) :
    settleBefore deadline graph registry budget (start graph seed) effort ≠
      .error ⟨.nonMonotone number, effort'⟩ := by
  intro failed
  obtain ⟨middle, pending, middleEffort, node, reaches, present, visited⟩ :=
    visit_of_settleBefore failed
  have ascending := isAscending_of_reaches antitone (isConsistent_start graph registry seed)
    (isAscending_start graph registry seed) reaches
  have popped : IsAscending graph registry { middle with pending } :=
    ⟨ascending.canonical, ascending.holds, ascending.ascends, ascending.belowSolutions⟩
  exact visit_isOk fits popped present _ visited

/-- A run that ends has found the least solution. -/
theorem isLeastSolution_of_end (antitone : registry.IsAntitone) {seed : Nat} {run : SourceRun}
    (reaches : Reaches graph registry (start graph seed) run) (done : run.pending = []) :
    graph.IsLeastSolution registry seed run.values := by
  have consistent := isConsistent_start graph registry seed
  have seeded : run.seed = seed := seed_of_reaches consistent reaches
  have solution := isSolution_of_end (isConsistent_of_reaches consistent reaches) done
  have ascending := isAscending_of_reaches antitone consistent
    (isAscending_start graph registry seed) reaches
  rw [seeded] at solution
  exact ⟨solution, fun other isSolution => ascending.belowSolutions other (seeded ▸ isSolution)⟩

/-- All runs that end, also those over the edges in another order, end with the same values and the
same evaluations. -/
theorem eq_of_end (antitone : registry.IsAntitone) {reordered : FlowGraph}
    (reorders : reordered.Reorders graph) {seed : Nat} {run other : SourceRun}
    (reaches : Reaches graph registry (start graph seed) run) (done : run.pending = [])
    (reaches' : Reaches reordered registry (start reordered seed) other)
    (done' : other.pending = []) :
    other.values = run.values ∧ other.evaluations = run.evaluations := by
  have started := isConsistent_start graph registry seed
  have started' := isConsistent_start reordered registry seed
  have consistent := isConsistent_of_reaches started reaches
  have consistent' := isConsistent_of_reaches started' reaches'
  have canonical := (isAscending_of_reaches antitone started
    (isAscending_start graph registry seed) reaches).canonical
  have canonical' := (isAscending_of_reaches antitone started'
    (isAscending_start reordered registry seed) reaches').canonical
  have least := isLeastSolution_of_end antitone reaches done
  have least' := isLeastSolution_of_end antitone reaches' done'
  have values : other.values = run.values := by
    apply NodeValues.eq_of_at
    · rw [least.size, least'.size, reorders.nodes]
    · intro number
      refine TaintValue.leq_antisymm (canonical' number) (canonical number) ?_ ?_
      · exact least'.least _ (reorders.isSolution canonical least.toIsSolution) number
      · exact least.least _ (reorders.symm.isSolution canonical' least'.toIsSolution) number
  refine ⟨values, Array.ext ?_ ?_⟩
  · rw [consistent.evaluationsSize, consistent'.evaluationsSize, reorders.nodes]
  · intro number within within'
    obtain ⟨node, present⟩ : ∃ node, graph.nodes[number]? = some node :=
      ⟨_, Array.getElem?_eq_getElem (consistent.evaluationsSize ▸ within')⟩
    have recorded := (consistent.settled number node present (done ▸ List.not_mem_nil)).2
    have recorded' := (consistent'.settled number node (reorders.nodes ▸ present)
      (done' ▸ List.not_mem_nil)).2
    rw [reorders.transfer_eq canonical', values, seed_of_reaches started' reaches'] at recorded'
    rw [seed_of_reaches started reaches] at recorded
    have same : other.evaluation? number = run.evaluation? number := recorded'.trans recorded.symm
    unfold evaluation? at same
    rwa [Array.getD_eq_getD_getElem?, Array.getD_eq_getD_getElem?,
      Array.getElem?_eq_getElem within, Array.getElem?_eq_getElem within', Option.getD_some,
      Option.getD_some] at same

/-- At the end of a run a guard node keeps the evaluation of the value that reaches it, unless that
is clean. -/
theorem evaluation_of_end {run : SourceRun} (wellFormed : graph.IsWellFormed)
    (consistent : IsConsistent graph registry run) (done : run.pending = []) {number guard : Nat}
    {node : FlowNode} {outcome : Bool} (present : graph.nodes[number]? = some node)
    (kind : node.kind = .guard guard outcome) :
    ∃ condition subject, graph.guards[guard]? = some condition ∧
      node.variableName = some subject ∧ run.evaluation? number =
        if (graph.input run.values number).isClean then none
        else
          let atoms := condition.atomsOf subject outcome
          some (registry.evaluate condition outcome subject atoms
            (GuardAtom.applyAll (graph.input run.values number) atoms)) := by
  obtain ⟨condition, subject, known, named, -⟩ :=
    wellFormed.guard number node guard outcome present kind
  refine ⟨condition, subject, known, named, ?_⟩
  rw [(consistent.settled number node present (done ▸ List.not_mem_nil)).2,
    FlowGraph.transfer_of_guard kind, named]
  cases dirty : (graph.input run.values number).isClean with
  | true => rw [FlowGraph.guardOutput_of_clean dirty, if_pos rfl]
  | false => rw [FlowGraph.guardOutput_of_dirty dirty known, if_neg Bool.false_ne_true]

/-- Propagation with the rules for forwarded paths never meets a value that does not climb; where it
ends, the values are the least solution, which every order of looks and every listing of the edges
leads to, and each guard node keeps the evaluation of the value that reaches it, unless that is
clean.  A deadline can only keep it from its end. -/
theorem settleBefore_finds_least_solution {catalog : Catalog} {unitConstants : StringMap String}
    {procedure : Procedure} {graph : FlowGraph}
    (built : FlowGraph.build catalog unitConstants procedure = .ok graph)
    (fits : graph.atomCount + 8 < UInt32.size) (deadline : Deadline) (options : BarrierOptions)
    (seed budget : Nat) (effort : Effort) :
    (∀ number effort', settleBefore deadline graph (.standard options) budget (start graph seed)
      effort ≠ .error ⟨.nonMonotone number, effort'⟩) ∧
    ∀ run effort', settleBefore deadline graph (.standard options) budget (start graph seed)
        effort = .ok (run, effort') →
      graph.IsLeastSolution (.standard options) seed run.values ∧
      (∀ reordered other, reordered.Reorders graph →
        Reaches reordered (.standard options) (start reordered seed) other → other.pending = [] →
        other.values = run.values ∧ other.evaluations = run.evaluations) ∧
      ∀ number node guard outcome, graph.nodes[number]? = some node →
        node.kind = .guard guard outcome →
        ∃ condition subject, graph.guards[guard]? = some condition ∧
          node.variableName = some subject ∧ run.evaluation? number =
            if (graph.input run.values number).isClean then none
            else
              let atoms := condition.atomsOf subject outcome
              some ((BarrierRegistry.standard options).evaluate condition outcome subject atoms
                (GuardAtom.applyAll (graph.input run.values number) atoms)) := by
  have antitone := BarrierRegistry.standard_isAntitone options
  refine ⟨settleBefore_monotone antitone fits deadline seed budget effort, ?_⟩
  intro run effort' settled
  obtain ⟨reaches, done⟩ := reaches_of_settleBefore settled
  have consistent := isConsistent_of_reaches
    (isConsistent_start graph (.standard options) seed) reaches
  refine ⟨isLeastSolution_of_end antitone reaches done, ?_, ?_⟩
  · intro reordered other reorders reaches' done'
    exact eq_of_end antitone reorders reaches done reaches' done'
  · intro number node guard outcome present kind
    exact evaluation_of_end (FlowGraph.isWellFormed_of_build built) consistent done present kind

/-- The loop that decodes a path is such a graph, and its propagation ends before the clock is read. -/
theorem settleBefore_decodingLoop :
    FlowGraph.build DecodingLoop.catalog .empty DecodingLoop.procedure = .ok DecodingLoop.graph ∧
    DecodingLoop.graph.atomCount + 8 < UInt32.size ∧
    ∃ run effort, settleBefore ⟨some 0, id, id⟩ DecodingLoop.graph (.standard ⟨true⟩) 50
        (start DecodingLoop.graph 0) .none = .ok (run, effort) ∧
      DecodingLoop.graph.IsLeastSolution (.standard ⟨true⟩) 0 run.values := by
  have fits : DecodingLoop.graph.atomCount + 8 < UInt32.size := by decide
  have ends : (settleBefore ⟨some 0, id, id⟩ DecodingLoop.graph (.standard ⟨true⟩) 50
      (start DecodingLoop.graph 0) .none).isOk = true := by cbv
  have least := (settleBefore_finds_least_solution DecodingLoop.build_eq fits ⟨some 0, id, id⟩
    ⟨true⟩ 0 50 .none).2
  refine ⟨DecodingLoop.build_eq, fits, ?_⟩
  cases settled : settleBefore ⟨some 0, id, id⟩ DecodingLoop.graph (.standard ⟨true⟩) 50
      (start DecodingLoop.graph 0) .none with
  | error interruption =>
      rw [settled] at ends
      exact absurd ends Bool.false_ne_true
  | ok result => exact ⟨result.1, result.2, rfl, (least result.1 result.2 settled).1⟩

end SourceRun

end ForwardTaint
