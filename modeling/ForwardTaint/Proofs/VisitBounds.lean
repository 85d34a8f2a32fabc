import ForwardTaint.Proofs.AbandonedFlows
import ForwardTaint.Proofs.LeastSolution

/-!
How many visits propagation takes.  Each visit takes a node off the list, and puts nodes onto it only
when a value gains in badness, of which a value has a limited amount to gain.  So propagation comes
to an end without any limit, whatever the rules are, and a limit shows only where it is below the
number of visits.
-/

namespace ForwardTaint

/-- The visits that were made when propagation came to its end or was given up. -/
def visitsOf {Result : Type} : Except Interruption (Result × Effort) → Nat
  | .ok (_, effort) => effort.visits
  | .error interruption => interruption.effort.visits

namespace SourceRun

variable {graph : FlowGraph} {registry : BarrierRegistry}

/-- How a run ends when nothing limits its visits: the list is empty, or a value does not climb. -/
inductive Finishes (graph : FlowGraph) (registry : BarrierRegistry) :
    SourceRun → Effort → Except Interruption (SourceRun × Effort) → Prop
  | done {run : SourceRun} {effort : Effort} (done : run.pending = []) :
      Finishes graph registry run effort (.ok (run, effort))
  | fail {run : SourceRun} {effort : Effort} {number : Nat} {node : FlowNode}
      {pending : List Nat} {interruption : Interruption}
      (chosen : run.pending = number :: pending) (present : graph.nodes[number]? = some node)
      (visited : visit graph registry { run with pending } effort number node =
        .error interruption) : Finishes graph registry run effort (.error interruption)
  | next {run next : SourceRun} {effort nextEffort : Effort} {number : Nat} {node : FlowNode}
      {pending : List Nat} {result : Except Interruption (SourceRun × Effort)}
      (chosen : run.pending = number :: pending) (present : graph.nodes[number]? = some node)
      (visited : visit graph registry { run with pending } effort number node =
        .ok (next, nextEffort))
      (rest : Finishes graph registry next nextEffort result) :
      Finishes graph registry run effort result

/-- What bounds the visits to come: the nodes of the list, and the nodes behind each node as often
as its value can still gain in badness. -/
def potential (graph : FlowGraph) (run : SourceRun) : Nat :=
  run.pending.length + ∑ number ∈ Finset.range graph.nodes.size,
    (8 + graph.atomCount - (run.values.at number).badness graph.atomCount) *
      (graph.taintTargets number).length

/-- A run over the nodes of the graph and nothing else. -/
structure IsWithin (graph : FlowGraph) (run : SourceRun) : Prop where
  valuesSize : run.values.size = graph.nodes.size
  pending : ∀ number ∈ run.pending, number < graph.nodes.size

/-- What a visit leaves behind: all as it was, or a value that has gained in badness and the nodes
behind it on the list. -/
theorem visit_ok {run next : SourceRun} {effort nextEffort : Effort} {number : Nat} {node : FlowNode}
    {pending : List Nat}
    (visited : visit graph registry { run with pending } effort number node =
      .ok (next, nextEffort)) :
    nextEffort.visits = effort.visits + 1 ∧
      (next.values = run.values ∧ next.pending = pending ∨
        ∃ value : TaintValue,
          (run.values.at number).badness graph.atomCount < value.badness graph.atomCount ∧
          next.values = run.values.setIfInBounds number value ∧
          next.pending = (graph.taintTargets number).foldl enqueue pending) := by
  unfold visit at visited
  simp only [values_record] at visited
  split at visited
  · obtain ⟨rfl, rfl⟩ := Prod.mk.inj (Except.ok.inj visited)
    exact ⟨rfl, .inl ⟨values_record _ _ _, pending_record _ _ _⟩⟩
  · split at visited
    · rename_i climbing
      obtain ⟨rfl, rfl⟩ := Prod.mk.inj (Except.ok.inj visited)
      simp only [climbs, Bool.and_eq_true, decide_eq_true_eq] at climbing
      exact ⟨rfl, .inr ⟨_, climbing.2, by simp [update, values_record],
        by simp [update, pending_record]⟩⟩
    · cases visited

/-- A visit fails only at a value that does not climb. -/
theorem visit_error {run : SourceRun} {effort : Effort} {number : Nat} {node : FlowNode}
    {interruption : Interruption}
    (visited : visit graph registry run effort number node = .error interruption) :
    interruption.reason = .nonMonotone number ∧ interruption.effort.visits = effort.visits + 1 := by
  unfold visit at visited
  simp only at visited
  split at visited
  · exact nomatch visited
  · split at visited
    · exact nomatch visited
    · obtain rfl := Except.error.inj visited
      exact ⟨rfl, rfl⟩

theorem length_enqueue_le (pending : List Nat) (node : Nat) :
    (enqueue pending node).length ≤ pending.length + 1 := by
  unfold enqueue
  split <;> simp

theorem length_enqueueAll_le (nodes pending : List Nat) :
    (nodes.foldl enqueue pending).length ≤ pending.length + nodes.length := by
  induction nodes generalizing pending with
  | nil => simp
  | cons node nodes inductionHypothesis =>
      have first := length_enqueue_le pending node
      have later := inductionHypothesis (enqueue pending node)
      rw [List.foldl_cons, List.length_cons]
      omega

theorem isWithin_start (graph : FlowGraph) (seed : Nat) : IsWithin graph (start graph seed) where
  valuesSize := Array.size_replicate
  pending _ member := List.mem_range.1 member

/-- A visit stays among the nodes of the graph. -/
theorem isWithin_of_visit (wellFormed : graph.IsWellFormed) {run next : SourceRun}
    {effort nextEffort : Effort} {number : Nat} {node : FlowNode} {pending : List Nat}
    (within : IsWithin graph run) (chosen : run.pending = number :: pending)
    (visited : visit graph registry { run with pending } effort number node =
      .ok (next, nextEffort)) : IsWithin graph next := by
  have rest : ∀ other ∈ pending, other < graph.nodes.size := fun other member =>
    within.pending other (chosen ▸ List.mem_cons_of_mem _ member)
  rcases (visit_ok visited).2 with ⟨values, unchanged⟩ | ⟨value, -, values, enqueued⟩
  · exact ⟨values ▸ within.valuesSize, unchanged ▸ rest⟩
  · refine ⟨by simp [values, within.valuesSize], fun other member => ?_⟩
    rw [enqueued, mem_enqueueAll, FlowGraph.mem_taintTargets] at member
    rcases member with old | ⟨edge, isEdge, -, rfl, -⟩
    · exact rest other old
    · exact wellFormed.target_lt edge isEdge

/-- A visit lowers the potential: it takes one node off the list, and what it puts there costs as much
of what the value can gain. -/
theorem potential_lt_of_visit (fits : graph.atomCount + 8 < UInt32.size) {run next : SourceRun}
    {effort nextEffort : Effort} {number : Nat} {node : FlowNode} {pending : List Nat}
    (within : IsWithin graph run) (chosen : run.pending = number :: pending)
    (visited : visit graph registry { run with pending } effort number node =
      .ok (next, nextEffort)) : potential graph next < potential graph run := by
  unfold potential
  rw [chosen, List.length_cons]
  rcases (visit_ok visited).2 with ⟨values, unchanged⟩ | ⟨value, gains, values, enqueued⟩
  · rw [values, unchanged]
    omega
  · have inside : number < graph.nodes.size :=
      within.pending number (chosen ▸ List.mem_cons_self)
    have changed (other : Nat) := NodeValues.at_set (within.valuesSize ▸ inside) value other
    have most : value.badness graph.atomCount ≤ 8 + graph.atomCount := TaintValue.badness_le fits
    have longer := length_enqueueAll_le (graph.taintTargets number) pending
    have member : number ∈ Finset.range graph.nodes.size := Finset.mem_range.2 inside
    -- Only the summand of the node changes, by at least the nodes behind it.
    have others : ∑ other ∈ (Finset.range graph.nodes.size).erase number,
          (8 + graph.atomCount - (next.values.at other).badness graph.atomCount) *
            (graph.taintTargets other).length =
        ∑ other ∈ (Finset.range graph.nodes.size).erase number,
          (8 + graph.atomCount - (run.values.at other).badness graph.atomCount) *
            (graph.taintTargets other).length := by
      refine Finset.sum_congr rfl fun other isOther => ?_
      rw [values, changed, if_neg (Finset.ne_of_mem_erase isOther)]
    have own : (8 + graph.atomCount - value.badness graph.atomCount) *
          (graph.taintTargets number).length + (graph.taintTargets number).length ≤
        (8 + graph.atomCount - (run.values.at number).badness graph.atomCount) *
          (graph.taintTargets number).length := by
      rw [← Nat.succ_mul]
      exact Nat.mul_le_mul_right _ (by omega)
    rw [← Finset.add_sum_erase _ _ member, ← Finset.add_sum_erase _ _ member, others, values,
      changed, if_pos rfl, enqueued]
    omega

/-- Visits are only added. -/
theorem Finishes.visits_le {run : SourceRun} {effort : Effort}
    {result : Except Interruption (SourceRun × Effort)}
    (finishes : Finishes graph registry run effort result) :
    effort.visits ≤ visitsOf result := by
  induction finishes with
  | done => exact Nat.le_refl _
  | fail chosen present visited =>
      rw [visitsOf, (visit_error visited).2]
      omega
  | next chosen present visited rest inductionHypothesis =>
      have counted := (visit_ok visited).1
      omega

/-- A run that is not limited makes no more visits than its potential. -/
theorem Finishes.visits_le_potential (wellFormed : graph.IsWellFormed)
    (fits : graph.atomCount + 8 < UInt32.size) {run : SourceRun} {effort : Effort}
    {result : Except Interruption (SourceRun × Effort)}
    (finishes : Finishes graph registry run effort result) (within : IsWithin graph run) :
    visitsOf result ≤ effort.visits + potential graph run := by
  induction finishes with
  | done => exact Nat.le_add_right _ _
  | fail chosen present visited =>
      rw [visitsOf, (visit_error visited).2, potential, chosen, List.length_cons]
      omega
  | next chosen present visited rest inductionHypothesis =>
      have counted := (visit_ok visited).1
      have lower := potential_lt_of_visit fits within chosen visited
      have later := inductionHypothesis (isWithin_of_visit wellFormed within chosen visited)
      omega

/-- A run that is not limited comes to its end. -/
theorem exists_finishes (wellFormed : graph.IsWellFormed)
    (fits : graph.atomCount + 8 < UInt32.size) (registry : BarrierRegistry) {run : SourceRun}
    (effort : Effort) (within : IsWithin graph run) :
    ∃ result, Finishes graph registry run effort result := by
  induction bound : potential graph run using Nat.strongRecOn generalizing run effort with
  | ind bound inductionHypothesis =>
      subst bound
      cases chosen : run.pending with
      | nil => exact ⟨_, .done chosen⟩
      | cons number pending =>
          have inside : number < graph.nodes.size :=
            within.pending number (chosen ▸ List.mem_cons_self)
          have present := Array.getElem?_eq_getElem inside
          cases visited : visit graph registry { run with pending } effort number
              graph.nodes[number] with
          | error interruption => exact ⟨_, .fail chosen present visited⟩
          | ok output =>
              obtain ⟨next, nextEffort⟩ := output
              obtain ⟨result, rest⟩ := inductionHypothesis (potential graph next)
                (potential_lt_of_visit fits within chosen visited) nextEffort
                (isWithin_of_visit wellFormed within chosen visited) rfl
              exact ⟨result, .next chosen present visited rest⟩

/-- Nothing but a value that does not climb ends a run early when it is not limited. -/
theorem Finishes.nonMonotone {run : SourceRun} {effort : Effort} {interruption : Interruption}
    (finishes : Finishes graph registry run effort (.error interruption)) :
    ∃ number, interruption.reason = .nonMonotone number := by
  generalize same : (Except.error interruption : Except Interruption (SourceRun × Effort)) = result
    at finishes
  induction finishes with
  | done => exact nomatch same
  | fail chosen present visited =>
      obtain rfl := Except.error.inj same
      exact ⟨_, (visit_error visited).1⟩
  | next chosen present visited rest inductionHypothesis => exact inductionHypothesis same

/-- A limit on the visits shows exactly where the run would make more. -/
theorem Finishes.settleBefore {deadline : Deadline} (unbounded : deadline.budget = none)
    {run : SourceRun} {effort : Effort} {result : Except Interruption (SourceRun × Effort)}
    (finishes : Finishes graph registry run effort result) (budget : Nat) :
    (visitsOf result ≤ effort.visits + budget →
      settleBefore deadline graph registry budget run effort = result) ∧
    (effort.visits + budget < visitsOf result →
      ∃ after, settleBefore deadline graph registry budget run effort =
        .error ⟨.iterationLimit (effort.visits + budget), after⟩) := by
  have inTime := Deadline.passed?_of_unbounded unbounded
  induction finishes generalizing budget with
  | done done =>
      exact ⟨fun _ => settleBefore_done done, fun more => absurd more (by simp [visitsOf])⟩
  | fail chosen present visited =>
      have counted := (visit_error visited).2
      rw [visitsOf, counted]
      cases budget with
      | zero => exact ⟨by omega, fun _ => ⟨_, settleBefore_spent chosen⟩⟩
      | succ budget =>
          refine ⟨fun _ => ?_, by omega⟩
          rw [settleBefore_visit chosen present (inTime _), visited]
          rfl
  | next chosen present visited rest inductionHypothesis =>
      have counted := (visit_ok visited).1
      have added := rest.visits_le
      cases budget with
      | zero => exact ⟨by omega, fun _ => ⟨_, settleBefore_spent chosen⟩⟩
      | succ budget =>
          have later := inductionHypothesis budget
          rw [counted, Nat.add_assoc, Nat.add_comm 1 budget] at later
          rw [settleBefore_visit chosen present (inTime _), visited]
          exact later

end SourceRun

namespace FlowGraph

variable {graph : FlowGraph} {registry : BarrierRegistry} {limits : PropagationLimits}

/-- How propagation from sources in turn ends when nothing limits its visits. -/
inductive Finishes (graph : FlowGraph) (registry : BarrierRegistry) :
    List Nat → Effort → Except Interruption (List SourceRun × Effort) → Prop
  | nil {effort : Effort} : Finishes graph registry [] effort (.ok ([], effort))
  | fail {source : Nat} {sources : List Nat} {effort : Effort} {interruption : Interruption}
      (first : SourceRun.Finishes graph registry (.start graph source) effort
        (.error interruption)) :
      Finishes graph registry (source :: sources) effort (.error interruption)
  | cons {source : Nat} {sources : List Nat} {effort between : Effort} {run : SourceRun}
      {result : Except Interruption (List SourceRun × Effort)}
      (first : SourceRun.Finishes graph registry (.start graph source) effort (.ok (run, between)))
      (rest : Finishes graph registry sources between result) :
      Finishes graph registry (source :: sources) effort
        (result.map fun (runs, after) => (run :: runs, after))

theorem visitsOf_map {First Second : Type} (result : Except Interruption (First × Effort))
    (change : First → Second) :
    visitsOf (result.map fun (value, effort) => (change value, effort)) = visitsOf result := by
  cases result <;> rfl

/-- The edges out of all nodes that carry taint are edges of the graph that do. -/
theorem sum_length_taintTargets_le (graph : FlowGraph) (count : Nat) :
    ∑ number ∈ Finset.range count, (graph.taintTargets number).length ≤
      graph.edges.countP fun edge => edge.label.carriesTaint := by
  have length (number : Nat) : (graph.taintTargets number).length =
      graph.edges.countP fun edge => edge.label.carriesTaint && edge.source == number := by
    rw [taintTargets, outgoing, List.length_map, List.filter_filter, List.countP_eq_length_filter]
  simp only [length]
  induction graph.edges with
  | nil => simp
  | cons edge edges inductionHypothesis =>
      have once : ∑ number ∈ Finset.range count,
          (if (edge.label.carriesTaint && edge.source == number) = true then 1 else 0) ≤
          if edge.label.carriesTaint = true then 1 else 0 := by
        cases edge.label.carriesTaint with
        | false => simp
        | true =>
            simp only [Bool.true_and, beq_iff_eq, Finset.sum_ite_eq, if_true]
            split <;> omega
      simp only [List.countP_cons, Finset.sum_add_distrib]
      omega

/-- The potential of a run before its first visit. -/
theorem potential_start_le (graph : FlowGraph) (seed : Nat) :
    SourceRun.potential graph (.start graph seed) ≤ graph.nodes.size +
      (graph.edges.countP fun edge => edge.label.carriesTaint) * (8 + graph.atomCount) := by
  have clean : TaintValue.clean.badness graph.atomCount = 0 := rfl
  have edges := Nat.mul_le_mul_left (8 + graph.atomCount)
    (graph.sum_length_taintTargets_le graph.nodes.size)
  simp only [SourceRun.potential, SourceRun.at_start, clean, Nat.sub_zero, ← Finset.mul_sum]
  rw [Nat.mul_comm _ (8 + graph.atomCount)]
  simpa [SourceRun.start] using edges

/-- Propagation that is not limited comes to its end. -/
theorem exists_finishes (wellFormed : graph.IsWellFormed)
    (fits : graph.atomCount + 8 < UInt32.size) (registry : BarrierRegistry) (sources : List Nat)
    (effort : Effort) : ∃ result, graph.Finishes registry sources effort result := by
  induction sources generalizing effort with
  | nil => exact ⟨_, .nil⟩
  | cons source sources inductionHypothesis =>
      obtain ⟨first, ends⟩ := SourceRun.exists_finishes wellFormed fits registry effort
        (SourceRun.isWithin_start graph source)
      cases first with
      | error interruption => exact ⟨_, .fail ends⟩
      | ok output =>
          obtain ⟨run, between⟩ := output
          obtain ⟨result, rest⟩ := inductionHypothesis between
          exact ⟨_, .cons ends rest⟩

/-- Propagation that is not limited makes no more visits than the runs from its sources may. -/
theorem Finishes.visits_le_bound (wellFormed : graph.IsWellFormed)
    (fits : graph.atomCount + 8 < UInt32.size) {sources : List Nat} {effort : Effort}
    {result : Except Interruption (List SourceRun × Effort)}
    (finishes : graph.Finishes registry sources effort result) :
    visitsOf result ≤ effort.visits + sources.length * (graph.nodes.size +
      (graph.edges.countP fun edge => edge.label.carriesTaint) * (8 + graph.atomCount)) := by
  have single {source : Nat} {effort : Effort} {first : Except Interruption (SourceRun × Effort)}
      (ends : SourceRun.Finishes graph registry (.start graph source) effort first) :=
    ends.visits_le_potential wellFormed fits (SourceRun.isWithin_start graph source)
  induction finishes with
  | nil => exact Nat.le_add_right _ _
  | @fail source sources effort interruption first =>
      have made := single first
      have atMost := potential_start_le graph source
      rw [List.length_cons, Nat.succ_mul]
      simp only [visitsOf] at made ⊢
      omega
  | @cons source sources effort between run result first rest inductionHypothesis =>
      have made := single first
      have atMost := potential_start_le graph source
      rw [visitsOf_map, List.length_cons, Nat.succ_mul]
      simp only [visitsOf] at made
      omega

theorem Finishes.visits_le {sources : List Nat} {effort : Effort}
    {result : Except Interruption (List SourceRun × Effort)}
    (finishes : graph.Finishes registry sources effort result) :
    effort.visits ≤ visitsOf result := by
  induction finishes with
  | nil => exact Nat.le_refl _
  | fail first => exact first.visits_le
  | cons first rest inductionHypothesis =>
      have made := first.visits_le
      rw [visitsOf_map]
      simp only [visitsOf] at made
      omega

theorem Finishes.nonMonotone {sources : List Nat} {effort : Effort} {interruption : Interruption}
    (finishes : graph.Finishes registry sources effort (.error interruption)) :
    ∃ number, interruption.reason = .nonMonotone number := by
  generalize same : (Except.error interruption : Except Interruption (List SourceRun × Effort)) =
    result at finishes
  induction finishes with
  | nil => exact nomatch same
  | fail first =>
      obtain rfl := Except.error.inj same
      exact first.nonMonotone
  | @cons _ _ _ _ _ result first rest inductionHypothesis =>
      cases result with
      | ok output => exact nomatch same
      | error other => exact inductionHypothesis same

/-- A limit on the visits of all sources together shows exactly where they would make more. -/
theorem Finishes.runFromBefore {deadline : Deadline} (unbounded : deadline.budget = none)
    {sources : List Nat} {effort : Effort}
    {result : Except Interruption (List SourceRun × Effort)}
    (finishes : graph.Finishes registry sources effort result) {maxVisits : Nat}
    (within : effort.visits ≤ maxVisits) :
    (visitsOf result ≤ maxVisits →
      graph.runFromBefore deadline registry maxVisits sources effort = result) ∧
    (maxVisits < visitsOf result →
      ∃ after, graph.runFromBefore deadline registry maxVisits sources effort =
        .error ⟨.iterationLimit maxVisits, after⟩) := by
  induction finishes with
  | nil => exact ⟨fun _ => rfl, fun more => absurd within (Nat.not_le.2 more)⟩
  | @fail source sources effort interruption first =>
      have limited := first.settleBefore unbounded (maxVisits - effort.visits)
      rw [Nat.add_sub_cancel' within] at limited
      unfold FlowGraph.runFromBefore
      refine ⟨fun enough => ?_, fun more => ?_⟩
      · rw [limited.1 enough]
        rfl
      · obtain ⟨after, ends⟩ := limited.2 more
        rw [ends]
        exact ⟨after, rfl⟩
  | @cons source sources effort between run result first rest inductionHypothesis =>
      have limited := first.settleBefore unbounded (maxVisits - effort.visits)
      rw [Nat.add_sub_cancel' within] at limited
      have added := rest.visits_le
      rw [visitsOf_map]
      unfold FlowGraph.runFromBefore
      by_cases enough : between.visits ≤ maxVisits
      · rw [limited.1 enough]
        obtain ⟨all, cut⟩ := inductionHypothesis enough
        refine ⟨fun atMost => ?_, fun more => ?_⟩
        · simp only [bind, Except.bind, all atMost]
          cases result <;> rfl
        · obtain ⟨after, ends⟩ := cut more
          simp only [bind, Except.bind, ends]
          exact ⟨after, rfl⟩
      · refine ⟨fun atMost => absurd (Nat.le_trans added atMost) enough, fun _ => ?_⟩
        obtain ⟨after, ends⟩ := limited.2 (Nat.not_le.1 enough)
        rw [ends]
        exact ⟨after, rfl⟩

/-- What is reported when propagation came to its end or was given up. -/
def outcomeOf (graph : FlowGraph) (limits : PropagationLimits) :
    Except Interruption (List SourceRun × Effort) → PropagationOutcome
  | .ok (runs, effort) =>
      ⟨Finding.sorted (runs.flatMap (graph.findingsOf limits)), .complete, graph.sources.length,
        effort⟩
  | .error interruption =>
      ⟨Finding.sorted (graph.sources.flatMap (graph.reachabilityFindings limits)),
        .unstable interruption.reason, graph.sources.length, interruption.effort⟩

theorem propagateBefore_eq (deadline : Deadline) (graph : FlowGraph) (registry : BarrierRegistry)
    (limits : PropagationLimits) :
    graph.propagateBefore deadline registry limits = graph.outcomeOf limits
      (graph.runFromBefore deadline registry limits.maxVisits graph.sources .none) := by
  cases ran : graph.runFromBefore deadline registry limits.maxVisits graph.sources .none with
  | ok finished => simp only [propagateBefore, ran, outcomeOf]
  | error interruption => simp only [propagateBefore, ran, outcomeOf]

/-- The outcome of propagation whose visits nothing limits. -/
def IsUnlimitedOutcome (graph : FlowGraph) (registry : BarrierRegistry)
    (limits : PropagationLimits) (outcome : PropagationOutcome) : Prop :=
  ∃ result, graph.Finishes registry graph.sources .none result ∧
    outcome = graph.outcomeOf limits result

theorem visits_outcomeOf (limits : PropagationLimits)
    (result : Except Interruption (List SourceRun × Effort)) :
    (graph.outcomeOf limits result).effort.visits = visitsOf result := by
  cases result <;> rfl

/-- Whatever the rules are, propagation whose visits nothing limits comes to an end, with all flows
judged or at a value that does not climb, and within visits that sources, nodes, edges and atoms
bound.  With at least these visits allowed a limit does not show; with fewer, propagation is given up
after those allowed. -/
theorem propagateBefore_terminates {catalog : Catalog} {unitConstants : StringMap String}
    {procedure : Procedure} {graph : FlowGraph}
    (built : FlowGraph.build catalog unitConstants procedure = .ok graph)
    (fits : graph.atomCount + 8 < UInt32.size) (registry : BarrierRegistry)
    (limits : PropagationLimits) {deadline : Deadline} (unbounded : deadline.budget = none) :
    (∃ outcome, graph.IsUnlimitedOutcome registry limits outcome) ∧
    ∀ outcome, graph.IsUnlimitedOutcome registry limits outcome →
      (outcome.status = .complete ∨
        ∃ number, outcome.status = .unstable (.nonMonotone number)) ∧
      outcome.effort.visits ≤ graph.sources.length * (graph.nodes.size +
        (graph.edges.countP fun edge => edge.label.carriesTaint) * (8 + graph.atomCount)) ∧
      ∀ maxVisits,
        (outcome.effort.visits ≤ maxVisits →
          graph.propagateBefore deadline registry { limits with maxVisits } = outcome) ∧
        (maxVisits < outcome.effort.visits →
          (graph.propagateBefore deadline registry { limits with maxVisits }).status =
            .unstable (.iterationLimit maxVisits)) := by
  have wellFormed := isWellFormed_of_build built
  refine ⟨?_, ?_⟩
  · obtain ⟨result, finishes⟩ := exists_finishes wellFormed fits registry graph.sources .none
    exact ⟨_, result, finishes, rfl⟩
  · rintro outcome ⟨result, finishes, rfl⟩
    rw [visits_outcomeOf]
    refine ⟨?_, ?_, fun maxVisits => ?_⟩
    · cases result with
      | ok output => exact .inl rfl
      | error interruption =>
          obtain ⟨number, reason⟩ := finishes.nonMonotone
          exact .inr ⟨number, congrArg PropagationStatus.unstable reason⟩
    · have atMost := finishes.visits_le_bound wellFormed fits
      rwa [show Effort.none.visits = 0 from rfl, Nat.zero_add] at atMost
    · rw [propagateBefore_eq]
      obtain ⟨all, cut⟩ := finishes.runFromBefore unbounded (Nat.zero_le maxVisits)
      refine ⟨fun enough => ?_, fun more => ?_⟩
      · rw [all enough]
        cases result <;> rfl
      · obtain ⟨after, ends⟩ := cut more
        rw [ends]
        rfl

/-- The loop that decodes a path comes to its end in eleven visits of the one hundred and ten that it
may take; ten are not enough. -/
theorem propagateBefore_decodingLoop_terminates :
    FlowGraph.build DecodingLoop.catalog .empty DecodingLoop.procedure = .ok DecodingLoop.graph ∧
    DecodingLoop.graph.atomCount + 8 < UInt32.size ∧
    (⟨none, id, id⟩ : Deadline).budget = none ∧
    ∃ outcome, DecodingLoop.graph.IsUnlimitedOutcome (.standard ⟨true⟩) ⟨0, 10, true⟩ outcome ∧
      outcome.effort.visits = 11 ∧
      DecodingLoop.graph.propagateBefore ⟨none, id, id⟩ (.standard ⟨true⟩) ⟨11, 10, true⟩ =
        outcome ∧
      (DecodingLoop.graph.propagateBefore ⟨none, id, id⟩ (.standard ⟨true⟩)
        ⟨10, 10, true⟩).status = .unstable (.iterationLimit 10) := by
  have fits : DecodingLoop.graph.atomCount + 8 < UInt32.size := by decide
  have unbounded : (⟨none, id, id⟩ : Deadline).budget = none := rfl
  obtain ⟨⟨outcome, unlimited⟩, ends⟩ := propagateBefore_terminates DecodingLoop.build_eq fits
    (.standard ⟨true⟩) ⟨0, 10, true⟩ unbounded
  obtain ⟨-, atMost, limited⟩ := ends outcome unlimited
  have bound : DecodingLoop.graph.sources.length * (DecodingLoop.graph.nodes.size +
      (DecodingLoop.graph.edges.countP fun edge => edge.label.carriesTaint) *
        (8 + DecodingLoop.graph.atomCount)) = 110 := by decide
  rw [bound] at atMost
  have visits : outcome.effort.visits = 11 := by
    rw [← (limited 110).1 atMost]
    cbv
  rw [visits] at limited
  exact ⟨DecodingLoop.build_eq, fits, rfl, outcome, unlimited, visits,
    (limited 11).1 (Nat.le_refl 11), (limited 10).2 (by decide)⟩

end FlowGraph

end ForwardTaint
