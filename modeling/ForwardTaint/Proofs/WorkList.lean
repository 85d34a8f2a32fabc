import ForwardTaint.Proofs.Reachability
import ForwardTaint.Proofs.TransferMonotone
import ForwardTaint.Propagation.Run

/-!
Runs over the list of nodes to look at, in any order.  Every node that is not on the list agrees
with the values that reach it, and a guard node keeps an evaluation exactly as long as it would be
evaluated again; so at the end of a run all nodes agree.
-/

namespace ForwardTaint

namespace NodeValues

/-- The values after one of them is set. -/
theorem at_set {values : NodeValues} {number : Nat} (within : number < values.size)
    (value : TaintValue) (other : Nat) :
    NodeValues.at (values.setIfInBounds number value) other =
      if other = number then value else values.at other := by
  unfold NodeValues.at
  rw [Array.getD_eq_getD_getElem?, Array.getD_eq_getD_getElem?, Array.getElem?_setIfInBounds]
  by_cases same : number = other
  · subst same
    rw [if_pos rfl, if_pos rfl, if_pos within, Option.getD_some]
  · rw [if_neg same, if_neg (Ne.symm same)]

/-- Values of one size that agree at every node are equal. -/
theorem eq_of_at {first second : NodeValues} (sizes : first.size = second.size)
    (same : ∀ number, first.at number = second.at number) : first = second := by
  apply Array.ext sizes
  intro number within within'
  have here := same number
  unfold NodeValues.at at here
  rwa [Array.getD_eq_getD_getElem?, Array.getD_eq_getD_getElem?, Array.getElem?_eq_getElem within,
    Array.getElem?_eq_getElem within', Option.getD_some, Option.getD_some] at here

end NodeValues

namespace FlowGraph

variable {graph : FlowGraph}

/-- Values at the nodes that agree with what the nodes do to them. -/
structure IsSolution (graph : FlowGraph) (registry : BarrierRegistry) (seed : Nat)
    (values : NodeValues) : Prop where
  size : values.size = graph.nodes.size
  agrees : ∀ number node, graph.nodes[number]? = some node →
    values.at number = (graph.transfer registry seed values number node).value

/-- The solution that is below all others. -/
structure IsLeastSolution (graph : FlowGraph) (registry : BarrierRegistry) (seed : Nat)
    (values : NodeValues) : Prop extends graph.IsSolution registry seed values where
  least : ∀ other, graph.IsSolution registry seed other → values.Below other

end FlowGraph

namespace SourceRun

variable {graph : FlowGraph} {registry : BarrierRegistry}

/-- One look at a node of the list, whichever it is; numbers without a node are passed over. -/
inductive Step (graph : FlowGraph) (registry : BarrierRegistry) : SourceRun → SourceRun → Prop
  | visit {run next : SourceRun} {effort effort' : Effort} {number : Nat} {node : FlowNode}
      {before after : List Nat} (chosen : run.pending = before ++ number :: after)
      (present : graph.nodes[number]? = some node)
      (visited : visit graph registry { run with pending := before ++ after } effort number node =
        .ok (next, effort')) : Step graph registry run next
  | skip {run : SourceRun} {number : Nat} {before after : List Nat}
      (chosen : run.pending = before ++ number :: after)
      (absent : graph.nodes[number]? = none) :
      Step graph registry run { run with pending := before ++ after }

/-- Any number of looks at nodes. -/
def Reaches (graph : FlowGraph) (registry : BarrierRegistry) : SourceRun → SourceRun → Prop :=
  Relation.ReflTransGen (Step graph registry)

theorem mem_enqueue {pending : List Nat} {node other : Nat} :
    other ∈ enqueue pending node ↔ other ∈ pending ∨ other = node := by
  unfold enqueue
  split
  · rename_i present
    rw [List.contains_iff_mem] at present
    exact ⟨.inl, fun either => either.elim id fun same => same ▸ present⟩
  · rw [List.mem_append, List.mem_singleton]

theorem mem_enqueueAll {nodes pending : List Nat} {other : Nat} :
    other ∈ nodes.foldl enqueue pending ↔ other ∈ pending ∨ other ∈ nodes := by
  induction nodes generalizing pending with
  | nil => simp
  | cons node nodes inductionHypothesis =>
      rw [List.foldl_cons, inductionHypothesis, mem_enqueue, or_assoc, List.mem_cons]

theorem evaluation?_record {run : SourceRun} {number : Nat} (within : number < run.evaluations.size)
    (evaluation : Option BarrierEvaluation) (other : Nat) :
    (run.record number evaluation).evaluation? other =
      if other = number then evaluation.or (run.evaluation? number) else run.evaluation? other := by
  cases evaluation with
  | none =>
      change run.evaluation? other = _
      split
      · rename_i same
        rw [same, Option.none_or]
      · rfl
  | some evaluation =>
      unfold record evaluation?
      simp only [Option.some_or]
      rw [Array.getD_eq_getD_getElem?, Array.getElem?_setIfInBounds, Array.getD_eq_getD_getElem?]
      by_cases same : number = other
      · subst same
        rw [if_pos rfl, if_pos rfl, if_pos within, Option.getD_some]
      · rw [if_neg same, if_neg (Ne.symm same)]

/-- What a look at a node does to a run: the value there climbs to what the node makes of the values
that reach it, and where it has changed, the nodes behind it come onto the list. -/
structure Visited (graph : FlowGraph) (registry : BarrierRegistry) (run : SourceRun) (number : Nat)
    (node : FlowNode) (next : SourceRun) : Prop where
  seed : next.seed = run.seed
  valuesSize : next.values.size = run.values.size
  evaluationsSize : next.evaluations.size = run.evaluations.size
  value : ∀ other, next.values.at other = if other = number
    then (graph.transfer registry run.seed run.values number node).value
    else run.values.at other
  evaluation : ∀ other, next.evaluation? other = if other = number
    then (graph.transfer registry run.seed run.values number node).evaluation.or
      (run.evaluation? number)
    else run.evaluation? other
  climbs : (run.values.at number).leq
    (graph.transfer registry run.seed run.values number node).value = true
  pending : ∀ other, other ∈ next.pending ↔ other ∈ run.pending ∨
    next.values.at number ≠ run.values.at number ∧ graph.TaintStep number other

theorem size_record (run : SourceRun) (number : Nat) (evaluation : Option BarrierEvaluation) :
    (run.record number evaluation).evaluations.size = run.evaluations.size := by
  cases evaluation with
  | none => rfl
  | some evaluation => exact Array.size_setIfInBounds

theorem values_record (run : SourceRun) (number : Nat) (evaluation : Option BarrierEvaluation) :
    (run.record number evaluation).values = run.values := by
  cases evaluation <;> rfl

theorem pending_record (run : SourceRun) (number : Nat) (evaluation : Option BarrierEvaluation) :
    (run.record number evaluation).pending = run.pending := by
  cases evaluation <;> rfl

theorem seed_record (run : SourceRun) (number : Nat) (evaluation : Option BarrierEvaluation) :
    (run.record number evaluation).seed = run.seed := by
  cases evaluation <;> rfl

theorem visited_of_visit {run next : SourceRun} {effort effort' : Effort} {number : Nat}
    {node : FlowNode} (within : number < run.values.size) (within' : number < run.evaluations.size)
    (visited : visit graph registry run effort number node = .ok (next, effort')) :
    Visited graph registry run number node next := by
  unfold visit at visited
  simp only [values_record] at visited
  split at visited
  · rename_i same
    obtain ⟨rfl, -⟩ := Prod.mk.inj (Except.ok.inj visited)
    refine ⟨seed_record _ _ _, by rw [values_record], size_record _ _ _, fun other => ?_,
      evaluation?_record within' _, same ▸ TaintValue.leq_refl _, fun other => ?_⟩
    · rw [values_record]
      split
      · rename_i here
        rw [here, same]
      · rfl
    · rw [pending_record, values_record]
      simp
  · rename_i different
    split at visited
    · rename_i climbing
      obtain ⟨rfl, -⟩ := Prod.mk.inj (Except.ok.inj visited)
      rw [climbs, Bool.and_eq_true] at climbing
      have value (other : Nat) := NodeValues.at_set within
        (graph.transfer registry run.seed run.values number node).value other
      refine ⟨seed_record _ _ _, ?_, size_record _ _ _, fun other => ?_,
        evaluation?_record within' _, climbing.1, fun other => ?_⟩
      · simp only [update, values_record]
        exact Array.size_setIfInBounds
      · simp only [update, values_record]
        exact value other
      · simp only [update, values_record, pending_record]
        rw [mem_enqueueAll, FlowGraph.mem_taintTargets, value, if_pos rfl]
        simp only [ne_eq, different, not_false_eq_true, true_and]
    · exact absurd visited (by simp)

/-- Nodes off the list agree with the values that reach them, and guard nodes are evaluated only
where they would be evaluated again. -/
structure IsConsistent (graph : FlowGraph) (registry : BarrierRegistry) (run : SourceRun) :
    Prop where
  valuesSize : run.values.size = graph.nodes.size
  evaluationsSize : run.evaluations.size = graph.nodes.size
  settled : ∀ number node, graph.nodes[number]? = some node → number ∉ run.pending →
    run.values.at number = (graph.transfer registry run.seed run.values number node).value ∧
      run.evaluation? number = (graph.transfer registry run.seed run.values number node).evaluation
  evaluated : ∀ number node, graph.nodes[number]? = some node → run.evaluation? number ≠ none →
    (graph.transfer registry run.seed run.values number node).evaluation ≠ none

end SourceRun

namespace FlowGraph

variable {graph : FlowGraph} {registry : BarrierRegistry} {seed : Nat}

theorem transfer_of_guard {values : NodeValues} {number guard : Nat} {node : FlowNode}
    {outcome : Bool} (kind : node.kind = .guard guard outcome) :
    graph.transfer registry seed values number node =
      graph.guardOutput registry guard outcome node.variableName (graph.input values number) := by
  unfold transfer
  rw [kind]

/-- Only guard nodes are evaluated. -/
theorem isGuard_of_evaluation {values : NodeValues} {number : Nat} {node : FlowNode}
    (evaluated : (graph.transfer registry seed values number node).evaluation ≠ none) :
    ∃ guard outcome, node.kind = .guard guard outcome := by
  unfold transfer at evaluated
  cases kind : node.kind with
  | guard guard outcome => exact ⟨guard, outcome, rfl⟩
  | _ =>
      rw [kind] at evaluated
      exact absurd rfl evaluated

/-- A guard node that is evaluated is evaluated on all greater values too. -/
theorem evaluated_mono {lower upper : NodeValues} (below : lower.Below upper) {number : Nat}
    {node : FlowNode}
    (evaluated : (graph.transfer registry seed lower number node).evaluation ≠ none) :
    (graph.transfer registry seed upper number node).evaluation ≠ none := by
  have input : (graph.input lower number).leq (graph.input upper number) = true :=
    NodeValues.joined_mono below _
  obtain ⟨guard, outcome, kind⟩ := isGuard_of_evaluation evaluated
  rw [transfer_of_guard kind] at *
  cases dirty : (graph.input lower number).isClean with
  | true =>
      rw [guardOutput_of_clean dirty] at evaluated
      exact absurd rfl evaluated
  | false =>
      have dirty' := ((TaintValue.leq_iff dirty).1 input).1
      unfold guardOutput at *
      rw [dirty, if_neg Bool.false_ne_true] at evaluated
      rw [dirty', if_neg Bool.false_ne_true]
      split
      · exact Option.some_ne_none _
      · rename_i unknown
        split at evaluated
        · rename_i condition subject known named
          exact absurd named (unknown condition subject known)
        · exact absurd rfl evaluated

end FlowGraph

namespace SourceRun

variable {graph : FlowGraph} {registry : BarrierRegistry}

theorem Visited.below {run next : SourceRun} {number : Nat} {node : FlowNode}
    (visited : Visited graph registry run number node next) : run.values.Below next.values := by
  intro other
  rw [visited.value]
  split
  · rename_i same
    rw [same]
    exact visited.climbs
  · exact TaintValue.leq_refl _

/-- Nodes that the changed value does not reach do what they did before. -/
theorem Visited.transfer_eq {run next : SourceRun} {number other : Nat} {node : FlowNode}
    (visited : Visited graph registry run number node next) (notPending : other ∉ next.pending)
    (otherNode : FlowNode) :
    graph.transfer registry next.seed next.values other otherNode =
      graph.transfer registry run.seed run.values other otherNode := by
  rw [visited.seed]
  apply FlowGraph.transfer_congr
  intro source reaching
  by_cases same : source = number
  · by_contra different
    rw [same] at reaching different
    exact notPending ((visited.pending other).2
      (.inr ⟨different, FlowGraph.mem_taintSources.1 reaching⟩))
  · rw [visited.value, if_neg same]

theorem isConsistent_start (graph : FlowGraph) (registry : BarrierRegistry) (seed : Nat) :
    IsConsistent graph registry (start graph seed) where
  valuesSize := Array.size_replicate
  evaluationsSize := Array.size_replicate
  settled number node present notPending := by
    obtain ⟨within, -⟩ := Array.getElem?_eq_some_iff.1 present
    exact absurd (List.mem_range.2 within) notPending
  evaluated number node present evaluated := by
    refine absurd ?_ evaluated
    unfold evaluation? start
    rw [Array.getD_eq_getD_getElem?, Array.getElem?_replicate]
    split <;> rfl

/-- A look at a node keeps runs consistent: the node agrees now, and so does each node off the list,
which nothing that it depends on has changed for. -/
theorem isConsistent_of_visited {run next : SourceRun} {number : Nat} {node : FlowNode}
    {before after : List Nat} (consistent : IsConsistent graph registry run)
    (chosen : run.pending = before ++ number :: after) (present : graph.nodes[number]? = some node)
    (visited : Visited graph registry { run with pending := before ++ after } number node next) :
    IsConsistent graph registry next where
  valuesSize := visited.valuesSize.trans consistent.valuesSize
  evaluationsSize := visited.evaluationsSize.trans consistent.evaluationsSize
  settled other otherNode otherPresent notPending := by
    rw [visited.transfer_eq notPending, visited.value, visited.evaluation]
    by_cases same : other = number
    · subst same
      obtain rfl : node = otherNode := Option.some.inj (present.symm.trans otherPresent)
      rw [if_pos rfl, if_pos rfl]
      refine ⟨rfl, ?_⟩
      -- An evaluation from before would be made again.
      cases output : (graph.transfer registry run.seed run.values other node).evaluation with
      | some evaluation => rfl
      | none =>
          rw [Option.none_or]
          by_contra evaluated
          exact consistent.evaluated other node present evaluated output
    · rw [if_neg same, if_neg same]
      refine consistent.settled other otherNode otherPresent ?_
      intro pending
      apply notPending
      rw [chosen, List.mem_append, List.mem_cons] at pending
      refine (visited.pending other).2 (.inl (List.mem_append.2 ?_))
      exact pending.imp_right fun either => either.resolve_left same
  evaluated other otherNode otherPresent evaluated := by
    rw [visited.seed]
    apply FlowGraph.evaluated_mono visited.below
    rw [visited.evaluation] at evaluated
    split at evaluated
    · rename_i same
      subst same
      obtain rfl : node = otherNode := Option.some.inj (present.symm.trans otherPresent)
      intro output
      rw [output, Option.none_or] at evaluated
      exact consistent.evaluated other node present evaluated output
    · exact consistent.evaluated other otherNode otherPresent evaluated

/-- The look at a node in a step, as a change of the run. -/
theorem visited_of_chosen {run next : SourceRun} {effort effort' : Effort} {number : Nat}
    {node : FlowNode} {pending : List Nat} (consistent : IsConsistent graph registry run)
    (present : graph.nodes[number]? = some node)
    (visited : visit graph registry { run with pending } effort number node = .ok (next, effort')) :
    Visited graph registry { run with pending } number node next := by
  obtain ⟨within, -⟩ := Array.getElem?_eq_some_iff.1 present
  exact visited_of_visit (consistent.valuesSize ▸ within) (consistent.evaluationsSize ▸ within)
    visited

theorem isConsistent_of_step {run next : SourceRun} (consistent : IsConsistent graph registry run)
    (step : Step graph registry run next) : IsConsistent graph registry next := by
  cases step with
  | visit chosen present visited =>
      exact isConsistent_of_visited consistent chosen present
        (visited_of_chosen consistent present visited)
  | @skip number before after chosen absent =>
      refine ⟨consistent.valuesSize, consistent.evaluationsSize, ?_, consistent.evaluated⟩
      intro other node present notPending
      refine consistent.settled other node present fun pending => notPending ?_
      rw [chosen, List.mem_append, List.mem_cons] at pending
      refine List.mem_append.2 (pending.imp_right fun either => either.resolve_left ?_)
      intro same
      rw [← same, present] at absent
      exact Option.some_ne_none _ absent

theorem isConsistent_of_reaches {run next : SourceRun} (consistent : IsConsistent graph registry run)
    (reaches : Reaches graph registry run next) : IsConsistent graph registry next := by
  induction reaches with
  | refl => exact consistent
  | tail _ step inductionHypothesis => exact isConsistent_of_step inductionHypothesis step

theorem seed_of_reaches {run next : SourceRun} (consistent : IsConsistent graph registry run)
    (reaches : Reaches graph registry run next) : next.seed = run.seed := by
  induction reaches with
  | refl => rfl
  | tail before step inductionHypothesis =>
      rw [← inductionHypothesis]
      cases step with
      | visit chosen present visited =>
          exact (visited_of_chosen (isConsistent_of_reaches consistent before) present visited).seed
      | skip => rfl

/-- At the end of a run all nodes agree. -/
theorem isSolution_of_end {run : SourceRun} (consistent : IsConsistent graph registry run)
    (done : run.pending = []) : graph.IsSolution registry run.seed run.values where
  size := consistent.valuesSize
  agrees number node present := by
    have notPending : number ∉ run.pending := done ▸ List.not_mem_nil
    exact (consistent.settled number node present notPending).1

section Settling

variable {deadline : Deadline} {budget number : Nat} {run : SourceRun} {effort : Effort}
  {node : FlowNode} {pending : List Nat}

theorem settleBefore_done (done : run.pending = []) :
    settleBefore deadline graph registry budget run effort = .ok (run, effort) := by
  unfold settleBefore
  simp only [done]

/-- A visit for which nothing is left is counted too. -/
theorem settleBefore_spent (chosen : run.pending = number :: pending) :
    settleBefore deadline graph registry 0 run effort =
      .error ⟨.iterationLimit effort.visits, { effort with visits := effort.visits + 1 }⟩ := by
  unfold settleBefore
  simp only [chosen]

theorem settleBefore_skip (chosen : run.pending = number :: pending)
    (absent : graph.nodes[number]? = none) :
    settleBefore deadline graph registry (budget + 1) run effort =
      settleBefore deadline graph registry budget { run with pending } effort := by
  rw [settleBefore]
  simp only [chosen, absent]

theorem settleBefore_visit (chosen : run.pending = number :: pending)
    (present : graph.nodes[number]? = some node)
    (inTime : deadline.passed? (effort.visits + 1) = none) :
    settleBefore deadline graph registry (budget + 1) run effort = (do
      let (run, effort) ← visit graph registry { run with pending } effort number node
      settleBefore deadline graph registry budget run effort) := by
  rw [settleBefore]
  simp only [chosen, present, inTime]

end Settling

/-- The visits of `settleBefore` are looks at the first node of the list, until the list is empty. -/
theorem reaches_of_settleBefore {deadline : Deadline} {budget : Nat} {run final : SourceRun}
    {effort effort' : Effort}
    (settled : settleBefore deadline graph registry budget run effort = .ok (final, effort')) :
    Reaches graph registry run final ∧ final.pending = [] := by
  fun_induction settleBefore deadline graph registry budget run effort with
  | case1 budget run effort done =>
      obtain ⟨rfl, -⟩ := Prod.mk.inj (Except.ok.inj settled)
      exact ⟨.refl, done⟩
  | case2 => exact absurd settled (by simp)
  | case3 run effort number pending chosen budget absent inductionHypothesis =>
      obtain ⟨reaches, done⟩ := inductionHypothesis settled
      have skipped : Step graph registry run { run with pending := [] ++ pending } :=
        .skip chosen absent
      exact ⟨.head skipped reaches, done⟩
  | case4 => exact absurd settled (by simp)
  | case5 run effort number pending chosen budget node present inTime inductionHypothesis =>
      cases visited : visit graph registry { run with pending } effort number node with
      | error interruption =>
          rw [visited] at settled
          exact absurd settled (by simp [bind, Except.bind])
      | ok output =>
          obtain ⟨next, nextEffort⟩ := output
          rw [visited] at settled
          obtain ⟨reaches, done⟩ := inductionHypothesis next nextEffort settled
          have step : Step graph registry run next :=
            .visit chosen present (show visit graph registry { run with pending := [] ++ pending }
              effort number node = .ok (next, nextEffort) from visited)
          exact ⟨.head step reaches, done⟩

/-- A value that does not climb is found at a node of the list. -/
theorem visit_of_settleBefore {deadline : Deadline} {budget : Nat} {run : SourceRun}
    {effort effort' : Effort} {number : Nat}
    (failed : settleBefore deadline graph registry budget run effort =
      .error ⟨.nonMonotone number, effort'⟩) :
    ∃ middle pending middleEffort node, Reaches graph registry run middle ∧
      graph.nodes[number]? = some node ∧
      visit graph registry { middle with pending } middleEffort number node =
        .error ⟨.nonMonotone number, effort'⟩ := by
  fun_induction settleBefore deadline graph registry budget run effort with
  | case1 => exact absurd failed (by simp)
  | case2 => exact absurd failed (by simp)
  | case3 run effort first pending chosen budget absent inductionHypothesis =>
      obtain ⟨middle, rest, middleEffort, node, reaches, found⟩ := inductionHypothesis failed
      have skipped : Step graph registry run { run with pending := [] ++ pending } :=
        .skip chosen absent
      exact ⟨middle, rest, middleEffort, node, .head skipped reaches, found⟩
  | case4 => exact absurd failed (by simp)
  | case5 run effort first pending chosen budget node present inTime inductionHypothesis =>
      cases visited : visit graph registry { run with pending } effort first node with
      | error interruption =>
          rw [visited] at failed
          obtain rfl : interruption = ⟨.nonMonotone number, effort'⟩ := Except.error.inj failed
          have here : first = number := by
            unfold visit at visited
            simp only at visited
            split at visited
            · exact absurd visited (by simp)
            · split at visited
              · exact absurd visited (by simp)
              · injection visited with same
                injection same with reason
                injection reason
          subst here
          exact ⟨run, pending, effort, node, .refl, present, visited⟩
      | ok output =>
          obtain ⟨next, nextEffort⟩ := output
          rw [visited] at failed
          obtain ⟨middle, rest, middleEffort, other, reaches, found⟩ :=
            inductionHypothesis next nextEffort failed
          have step : Step graph registry run next :=
            .visit chosen present (show visit graph registry { run with pending := [] ++ pending }
              effort first node = .ok (next, nextEffort) from visited)
          exact ⟨middle, rest, middleEffort, other, .head step reaches, found⟩

end SourceRun

end ForwardTaint
