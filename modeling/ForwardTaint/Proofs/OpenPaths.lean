import ForwardTaint.Proofs.GraphConstruction
import ForwardTaint.Proofs.WorkList

/-!
The nodes that are tainted when a run ends.  They are those at the end of a path of taint from the
seed that enters no other source and no guard found effective: taint that a node has in the end
came from there, because values only climb and a guard that stops them once stops them in the end.
-/

namespace ForwardTaint

namespace TaintValue

theorem isTainted_iff {value : TaintValue} : value.isTainted = true ↔ value.state = .tainted := by
  rw [isTainted, beq_iff_eq]

theorem isClean_of_isTainted {value : TaintValue} (tainted : value.isTainted = true) :
    value.isClean = false := by
  rw [isClean, isTainted_iff.1 tainted]
  rfl

/-- Taint is the highest state. -/
theorem isTainted_of_leq {first second : TaintValue} (tainted : first.isTainted = true)
    (below : first.leq second = true) : second.isTainted = true := by
  obtain ⟨-, heights, -, -⟩ := (leq_iff (isClean_of_isTainted tainted)).1 below
  rw [isTainted_iff.1 tainted] at heights
  have atMost := TaintState.height_le_two second.state
  rw [isTainted_iff]
  exact TaintState.eq_of_height (Nat.le_antisymm atMost heights)

theorem isTainted_join {first second : TaintValue} :
    (first.join second).isTainted = true ↔
      first.isTainted = true ∨ second.isTainted = true := by
  constructor
  · intro tainted
    unfold join at tainted
    split at tainted
    · exact .inr tainted
    · split at tainted
      · exact .inl tainted
      · rw [isTainted_iff] at tainted
        simp only [TaintState.join] at tainted
        rw [isTainted_iff, isTainted_iff]
        split at tainted
        · exact .inr tainted
        · exact .inl tainted
  · rintro (tainted | tainted)
    · exact isTainted_of_leq tainted (leq_join_left first second)
    · exact isTainted_of_leq tainted (leq_join_right first second)

/-- The canonical form is tainted when the value is. -/
theorem isTainted_canonicalForm (value : TaintValue) :
    value.canonicalForm.isTainted = value.isTainted := by
  unfold canonicalForm
  split
  · rename_i isClean
    rw [isTainted, isTainted, isClean_iff.1 isClean]
    rfl
  · rfl

theorem isTainted_concatenated (value : TaintValue) :
    value.concatenated.isTainted = value.isTainted := isTainted_canonicalForm _

theorem isTainted_throughCall (value : TaintValue) :
    value.throughCall.isTainted = value.isTainted := isTainted_canonicalForm _

/-- Sanitizers keep taint. -/
theorem isTainted_sanitized (kind : SanitizerKind) (value : TaintValue) :
    (value.sanitized kind).isTainted = value.isTainted := by
  unfold sanitized
  split
  · rename_i isClean
    rw [isTainted, isTainted, isClean_iff.1 isClean]
    rfl
  · cases kind with
    | decode => rfl
    | normalize => rw [isTainted, isTainted, state_normalized]
    | caseFold => rfl

end TaintValue

/-- Checks keep taint. -/
theorem GuardAtom.isTainted_applyAll (atoms : List GuardAtom) (value : TaintValue) :
    (GuardAtom.applyAll value atoms).isTainted = value.isTainted := by
  unfold applyAll
  induction atoms generalizing value with
  | nil => rfl
  | cons atom atoms inductionHypothesis =>
      rw [List.foldl_cons, inductionHypothesis, apply_eq]
      rfl

/-- The least value above some values is tainted when one of them is. -/
theorem NodeValues.isTainted_joined {values : NodeValues} {nodes : List Nat} :
    (values.joined nodes).isTainted = true ↔
      ∃ node ∈ nodes, (values.at node).isTainted = true := by
  have folded : ∀ value : TaintValue,
      (nodes.foldl (fun value node => value.join (values.at node)) value).isTainted = true ↔
        value.isTainted = true ∨ ∃ node ∈ nodes, (values.at node).isTainted = true := by
    induction nodes with
    | nil => simp
    | cons node nodes inductionHypothesis =>
        intro value
        rw [List.foldl_cons, inductionHypothesis, TaintValue.isTainted_join, or_assoc,
          List.exists_mem_cons_iff]
  unfold NodeValues.joined
  rw [folded]
  constructor
  · rintro (tainted | member)
    · exact nomatch tainted
    · exact member
  · exact .inr

namespace FlowGraph

variable {graph : FlowGraph} {registry : BarrierRegistry} {run : SourceRun}

/-- No taint gets through the node: it is a source, or a guard that the run has found effective. -/
def IsClosed (graph : FlowGraph) (run : SourceRun) (number : Nat) : Prop :=
  ∃ node : FlowNode, graph.nodes[number]? = some node ∧
    (node.kind = .sourceCall ∨
      (∃ guard outcome, node.kind = .guard guard outcome) ∧
        ∃ evaluation, run.evaluation? number = some evaluation ∧
          evaluation.verdict = .effective)

/-- Taint goes from one node to the other on a path that enters no closed node. -/
def OpenPath (graph : FlowGraph) (run : SourceRun) : Nat → Nat → Prop :=
  Relation.ReflTransGen fun source target =>
    graph.TaintStep source target ∧ ¬graph.IsClosed run target

theorem OpenPath.taintPath {source target : Nat} (way : graph.OpenPath run source target) :
    graph.TaintPath source target :=
  Relation.ReflTransGen.mono (fun _ _ step => step.1) _ _ way

theorem isTainted_input {values : NodeValues} {number : Nat} :
    (graph.input values number).isTainted = true ↔
      ∃ source, graph.TaintStep source number ∧ (values.at source).isTainted = true := by
  rw [input, NodeValues.isTainted_joined]
  constructor
  · rintro ⟨source, member, tainted⟩
    exact ⟨source, mem_taintSources.1 member, tainted⟩
  · rintro ⟨source, step, tainted⟩
    exact ⟨source, mem_taintSources.2 step, tainted⟩

/-- A guard node passes taint on unless its guard is effective. -/
theorem isTainted_guardOutput {guard : Nat} {outcome : Bool} {variableName : Option String}
    {input : TaintValue} :
    (graph.guardOutput registry guard outcome variableName input).value.isTainted = true ↔
      input.isTainted = true ∧ ∀ evaluation,
        (graph.guardOutput registry guard outcome variableName input).evaluation =
          some evaluation → evaluation.verdict ≠ .effective := by
  cases dirty : input.isClean with
  | true =>
      rw [guardOutput_of_clean dirty]
      constructor
      · intro tainted
        exact nomatch tainted
      · rintro ⟨tainted, -⟩
        rw [TaintValue.isClean_of_isTainted tainted] at dirty
        exact nomatch dirty
  | false =>
      unfold guardOutput
      rw [dirty, if_neg Bool.false_ne_true]
      split
      · rename_i condition subject known named
        simp only [Option.some.injEq, forall_eq']
        split
        · rename_i effective
          constructor
          · intro tainted
            exact nomatch tainted
          · rintro ⟨-, notEffective⟩
            exact absurd (beq_iff_eq.1 effective) notEffective
        · rename_i notEffective
          rw [GuardAtom.isTainted_applyAll]
          constructor
          · intro tainted
            exact ⟨tainted, fun effective => notEffective (beq_iff_eq.2 effective)⟩
          · exact And.left
      · simp

/-- A node that is neither a source nor an effective guard has taint exactly if some taint reaches
it; a source has taint exactly if it is the seed. -/
theorem isTainted_transfer {values : NodeValues} {seed number : Nat} {node : FlowNode}
    (literal : node.kind = .literal → ∀ source, ¬graph.TaintStep source number) :
    (graph.transfer registry seed values number node).value.isTainted = true ↔
      (node.kind = .sourceCall ∧ number = seed) ∨
        (node.kind ≠ .sourceCall ∧
          (∃ source, graph.TaintStep source number ∧ (values.at source).isTainted = true) ∧
          ∀ evaluation, (graph.transfer registry seed values number node).evaluation =
            some evaluation → evaluation.verdict ≠ .effective) := by
  rw [← isTainted_input]
  cases kind : node.kind with
  | sourceCall =>
      unfold transfer
      rw [kind]
      simp only [ne_eq, not_true_eq_false, false_and, or_false, true_and]
      split
      · rename_i same
        constructor
        · intro _
          exact same
        · intro _
          rfl
      · rename_i different
        constructor
        · intro tainted
          exact nomatch tainted
        · intro same
          exact absurd same different
  | literal =>
      have clean : (graph.input values number).isTainted ≠ true := by
        rw [Ne, isTainted_input]
        rintro ⟨source, step, -⟩
        exact literal kind source step
      unfold transfer
      rw [kind]
      constructor
      · intro tainted
        exact nomatch tainted
      · rintro (⟨isSource, -⟩ | ⟨-, tainted, -⟩)
        · exact nomatch isSource
        · exact absurd tainted clean
  | variableRef =>
      have reached : (graph.input values number).isTainted = true →
          (graph.taintSources number).isEmpty = false := by
        rw [isTainted_input]
        rintro ⟨source, step, -⟩
        exact List.isEmpty_eq_false_iff_exists_mem.2 ⟨source, mem_taintSources.2 step⟩
      unfold transfer
      rw [kind]
      simp only [reduceCtorEq, false_and, ne_eq, not_false_eq_true, true_and, false_or,
        false_implies, implies_true, and_true]
      split
      · rename_i unreached
        constructor
        · intro tainted
          exact nomatch tainted
        · intro tainted
          rw [reached tainted] at unreached
          exact nomatch unreached
      · exact Iff.rfl
  | phi =>
      unfold transfer
      rw [kind]
      simp
  | concat =>
      unfold transfer
      rw [kind]
      simp [TaintValue.isTainted_concatenated]
  | call =>
      unfold transfer
      rw [kind]
      simp [TaintValue.isTainted_throughCall]
  | sinkCall positions =>
      unfold transfer
      rw [kind]
      simp [TaintValue.isTainted_throughCall]
  | sanitizerCall sanitizer =>
      unfold transfer
      rw [kind]
      simp [TaintValue.isTainted_sanitized]
  | guard guard outcome =>
      rw [transfer_of_guard kind, isTainted_guardOutput]
      simp

end FlowGraph

namespace SourceRun

variable {graph : FlowGraph} {registry : BarrierRegistry}

/-- Values only climb. -/
theorem below_of_reaches {run next : SourceRun} (consistent : IsConsistent graph registry run)
    (reaches : Reaches graph registry run next) : run.values.Below next.values := by
  induction reaches with
  | refl => exact NodeValues.below_refl _
  | @tail middle next before step inductionHypothesis =>
      cases step with
      | visit chosen present visited =>
          have climbs := (visited_of_chosen (isConsistent_of_reaches consistent before) present
            visited).below
          exact fun number => TaintValue.leq_trans (inductionHypothesis number) (climbs number)
      | skip => exact inductionHypothesis

/-- No edge leads to a literal of a graph that is built. -/
theorem unreached_of_literal (wellFormed : graph.IsWellFormed) {number : Nat} {node : FlowNode}
    (present : graph.nodes[number]? = some node) (literal : node.kind = .literal) (source : Nat) :
    ¬graph.TaintStep source number := by
  rintro ⟨edge, member, -, rfl, -⟩
  exact wellFormed.literal edge member node present literal

/-- A node that has taint when a run ends is not closed, unless it is a source. -/
theorem not_isClosed_of_isTainted (wellFormed : graph.IsWellFormed) {final : SourceRun}
    (finished : IsConsistent graph registry final) (done : final.pending = []) {number : Nat}
    {node : FlowNode} (present : graph.nodes[number]? = some node) (notSource : node.kind ≠ .sourceCall)
    (tainted : (final.values.at number).isTainted = true) : ¬graph.IsClosed final number := by
  rintro ⟨node', present', closed⟩
  obtain rfl : node = node' := Option.some.inj (present.symm.trans present')
  rcases closed with isSource | ⟨-, evaluation, evaluated, effective⟩
  · exact notSource isSource
  · obtain ⟨value, recorded⟩ := finished.settled number node present (done ▸ List.not_mem_nil)
    rw [value, FlowGraph.isTainted_transfer (unreached_of_literal wellFormed present)] at tainted
    obtain ⟨-, -, notEffective⟩ := tainted.resolve_left fun source => notSource source.1
    exact notEffective evaluation (recorded ▸ evaluated) effective

/-- Whatever has taint on the way to the end of a run got it on an open path from the seed. -/
theorem openPath_of_isTainted (wellFormed : graph.IsWellFormed) {seed : Nat} {final : SourceRun}
    (reaches : Reaches graph registry (start graph seed) final) (done : final.pending = [])
    {number : Nat} (tainted : (final.values.at number).isTainted = true) :
    graph.OpenPath final seed number := by
  have started := isConsistent_start graph registry seed
  have finished := isConsistent_of_reaches started reaches
  -- The claim holds of each run on the way, whose taint is still there in the end.
  have onTheWay : ∀ run, Reaches graph registry (start graph seed) run →
      Reaches graph registry run final →
      ∀ number, (run.values.at number).isTainted = true → graph.OpenPath final seed number := by
    intro run before after
    induction before with
    | refl =>
        intro number tainted
        simp only [start, NodeValues.at] at tainted
        rw [Array.getD_eq_getD_getElem?, Array.getElem?_replicate] at tainted
        split at tainted <;> exact nomatch tainted
    | @tail middle next before step inductionHypothesis =>
        have consistent := isConsistent_of_reaches started before
        have earlier := inductionHypothesis (.head step after)
        cases step with
        | skip => exact earlier
        | @visit _ effort effort' visitedNumber node waiting waiting' chosen present visited =>
            have change := visited_of_chosen consistent present visited
            have seeded : middle.seed = seed := seed_of_reaches started before
            intro number tainted
            have finalTainted := TaintValue.isTainted_of_leq tainted (below_of_reaches
              (isConsistent_of_step consistent (.visit chosen present visited)) after number)
            rw [change.value] at tainted
            split at tainted
            · rename_i here
              subst here
              rw [FlowGraph.isTainted_transfer (unreached_of_literal wellFormed present)] at tainted
              rcases tainted with ⟨-, isSeed⟩ | ⟨notSource, ⟨source, taintStep, tainted⟩, -⟩
              · rw [isSeed]
                change graph.OpenPath final seed middle.seed
                rw [seeded]
                exact .refl
              · exact (earlier source tainted).tail ⟨taintStep,
                  not_isClosed_of_isTainted wellFormed finished done present notSource finalTainted⟩
            · exact earlier number tainted
  exact onTheWay final reaches .refl number tainted

/-- When a run from a source ends, the tainted nodes are those at the end of an open path. -/
theorem isTainted_iff_openPath (wellFormed : graph.IsWellFormed) {seed : Nat} {final : SourceRun}
    {source : FlowNode} (present : graph.nodes[seed]? = some source)
    (isSource : source.kind = .sourceCall)
    (reaches : Reaches graph registry (start graph seed) final) (done : final.pending = [])
    {number : Nat} :
    (final.values.at number).isTainted = true ↔ graph.OpenPath final seed number := by
  have started := isConsistent_start graph registry seed
  have finished := isConsistent_of_reaches started reaches
  have seeded : final.seed = seed := seed_of_reaches started reaches
  constructor
  · exact openPath_of_isTainted wellFormed reaches done
  · intro way
    induction way with
    | refl =>
        rw [(finished.settled seed source present (done ▸ List.not_mem_nil)).1,
          FlowGraph.isTainted_transfer (unreached_of_literal wellFormed present)]
        exact .inl ⟨isSource, seeded.symm⟩
    | @tail middle target _ step inductionHypothesis =>
        obtain ⟨taintStep, notClosed⟩ := step
        obtain ⟨edge, member, -, ends, -⟩ := id taintStep
        obtain ⟨node, here⟩ : ∃ node, graph.nodes[target]? = some node :=
          ⟨_, Array.getElem?_eq_getElem (ends ▸ wellFormed.target_lt edge member)⟩
        obtain ⟨value, recorded⟩ := finished.settled target node here (done ▸ List.not_mem_nil)
        rw [value, FlowGraph.isTainted_transfer (unreached_of_literal wellFormed here)]
        refine .inr ⟨?_, ⟨middle, taintStep, inductionHypothesis⟩, ?_⟩
        · intro isSource
          exact notClosed ⟨node, here, .inl isSource⟩
        · intro evaluation evaluated effective
          have isGuard := FlowGraph.isGuard_of_evaluation (evaluated ▸ Option.some_ne_none _)
          exact notClosed ⟨node, here,
            .inr ⟨isGuard, evaluation, recorded.trans evaluated, effective⟩⟩

end SourceRun

end ForwardTaint
