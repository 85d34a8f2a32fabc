import ForwardTaint.Proofs.AbandonedFlows
import ForwardTaint.Proofs.LeastSolution

/-!
Propagation with rules that find fewer guards effective.  Where the stricter rules come to an end,
their values are a bound that no node raises under the others, so the values of the others stay
below; where they are given up, all flows are reported.  Either way no flow is lost, in particular
when the dispatcher is taken not to mind case.
-/

namespace ForwardTaint

namespace BarrierRegistry

/-- The registry finds each guard effective that the stricter one does. -/
def Covers (lenient strict : BarrierRegistry) : Prop :=
  ∀ (guard : GuardCondition) (outcome : Bool) (subject : String) (atoms : List GuardAtom)
    (value : TaintValue),
    (strict.evaluate guard outcome subject atoms value).verdict.isEffective = true →
    (lenient.evaluate guard outcome subject atoms value).verdict.isEffective = true

/-- A guard that stops paths of any case stops those of one case. -/
theorem standard_covers : (standard ⟨false⟩).Covers (standard ⟨true⟩) := by
  intro guard outcome subject atoms value effective
  rw [standard_effective_iff] at *
  refine effective.imp_right fun ⟨checksPath, decoded, backed, confined⟩ =>
    ⟨checksPath, decoded, backed, ?_⟩
  rcases confined with allowed | ⟨notAllowed, denied, untraversed, -⟩
  · exact .inl allowed
  · exact .inr ⟨notAllowed, denied, untraversed, .inr rfl⟩

end BarrierRegistry

namespace FlowGraph

variable {graph : FlowGraph} {lenient strict : BarrierRegistry}

/-- A guard node lets less through the more guards are found effective. -/
theorem guardOutput_leq_of_covers (covers : lenient.Covers strict) (guard : Nat) (outcome : Bool)
    (variableName : Option String) (input : TaintValue) :
    (graph.guardOutput lenient guard outcome variableName input).value.leq
      (graph.guardOutput strict guard outcome variableName input).value = true := by
  cases dirty : input.isClean with
  | true =>
      rw [guardOutput_of_clean dirty]
      exact TaintValue.leq_of_clean TaintValue.isClean_clean
  | false =>
      cases known : graph.guards[guard]? with
      | none => simp [guardOutput, dirty, known, TaintValue.leq_refl]
      | some condition =>
          cases variableName with
          | none => simp [guardOutput, dirty, known, TaintValue.leq_refl]
          | some subject =>
              rw [guardOutput_of_dirty dirty known, guardOutput_of_dirty dirty known]
              simp only
              split
              · exact TaintValue.leq_of_clean TaintValue.isClean_clean
              · rename_i ineffective
                rw [if_neg (ineffective ∘ covers _ _ _ _ _)]
                exact TaintValue.leq_refl _

theorem transfer_leq_of_covers (covers : lenient.Covers strict) (seed : Nat) (values : NodeValues)
    (number : Nat) (node : FlowNode) :
    (graph.transfer lenient seed values number node).value.leq
      (graph.transfer strict seed values number node).value = true := by
  unfold transfer
  cases node.kind with
  | guard guard outcome => exact guardOutput_leq_of_covers covers guard outcome _ _
  | _ => exact TaintValue.leq_refl _

end FlowGraph

namespace SourceRun

variable {graph : FlowGraph} {registry lenient strict : BarrierRegistry} {seed : Nat}

/-- The values of a run stay below a bound that no node raises. -/
theorem below_of_closed (antitone : registry.IsAntitone) {upper : NodeValues}
    (closed : ∀ number node, graph.nodes[number]? = some node →
      (graph.transfer registry seed upper number node).value.leq (upper.at number) = true)
    {run : SourceRun} (reaches : Reaches graph registry (start graph seed) run) :
    run.values.Below upper := by
  have started := isConsistent_start graph registry seed
  induction reaches with
  | refl =>
      intro number
      rw [at_start]
      exact TaintValue.leq_of_clean TaintValue.isClean_clean
  | @tail middle next before step inductionHypothesis =>
      cases step with
      | @visit _ effort effort' number node _ _ chosen present visited =>
          have change := visited_of_chosen (isConsistent_of_reaches started before) present visited
          have bounded := closed number node present
          rw [show seed = middle.seed from (seed_of_reaches started before).symm] at bounded
          intro other
          rw [change.value]
          split
          · rename_i same
            rw [same]
            exact TaintValue.leq_trans
              (FlowGraph.transfer_mono antitone inductionHypothesis number node) bounded
          · exact inductionHypothesis other
      | skip => exact inductionHypothesis

/-- Where a run with stricter rules is at its end, its values are above those of the run without. -/
theorem below_of_covers (antitone : lenient.IsAntitone) (covers : lenient.Covers strict)
    {run strictRun : SourceRun} (reaches : Reaches graph lenient (start graph seed) run)
    (strictReaches : Reaches graph strict (start graph seed) strictRun)
    (done : strictRun.pending = []) : run.values.Below strictRun.values := by
  have started := isConsistent_start graph strict seed
  have solution := isSolution_of_end (isConsistent_of_reaches started strictReaches) done
  rw [seed_of_reaches started strictReaches] at solution
  refine below_of_closed antitone (fun number node present => ?_) reaches
  rw [solution.agrees number node present]
  exact FlowGraph.transfer_leq_of_covers covers _ _ _ _

end SourceRun

namespace FlowGraph

variable {graph : FlowGraph} {registry lenient strict : BarrierRegistry}
  {limits : PropagationLimits}

/-- A flagged finding of a run is at a sink that tainted values arrive at. -/
theorem isTainted_of_flagged {run : SourceRun} {reachable : Array Bool} {sink : Nat}
    {found : Finding} (isFound : graph.sinkFinding? limits run reachable sink = some found)
    (flagged : found.verdict = .flagged) :
    (run.values.joined (graph.sinkArguments sink)).isTainted = true := by
  rcases sinkFinding_cases isFound with ⟨tainted, -⟩ | ⟨-, -, rfl⟩
  · exact tainted
  · exact nomatch flagged

/-- Where propagation with either rules comes to an end, the stricter rules flag all that the others
flag. -/
theorem flagged_of_covers (antitone : lenient.IsAntitone) (covers : lenient.Covers strict)
    {deadline otherDeadline : Deadline}
    (complete : (graph.propagateBefore deadline lenient limits).status = .complete)
    (strictComplete : (graph.propagateBefore otherDeadline strict limits).status = .complete)
    {finding : Finding}
    (member : finding ∈ (graph.propagateBefore deadline lenient limits).findings)
    (flagged : finding.verdict = .flagged) :
    ∃ other ∈ (graph.propagateBefore otherDeadline strict limits).findings,
      other.verdict = .flagged ∧ other.ends = finding.ends := by
  obtain ⟨run, isSource, -, reaches, sink, lookedAt, isFound⟩ :=
    run_of_mem_findings complete member
  obtain ⟨runs, effort, ran, findings⟩ := runs_of_complete strictComplete
  obtain ⟨seeds, finished⟩ := reaches_of_runFromBefore ran
  rw [← seeds, List.mem_map] at isSource
  obtain ⟨strictRun, isRun, sameSeed⟩ := isSource
  obtain ⟨done, strictReaches⟩ := finished strictRun isRun
  rw [sameSeed] at strictReaches
  have below := SourceRun.below_of_covers antitone covers reaches strictReaches done
  have tainted := TaintValue.isTainted_of_leq (isTainted_of_flagged isFound flagged)
    (NodeValues.joined_mono below (graph.sinkArguments sink))
  obtain ⟨other, isOther, otherFlagged⟩ :=
    @sinkFinding_of_tainted graph limits strictRun (graph.reachableFrom run.seed) sink tainted
  refine ⟨other, ?_, otherFlagged, ?_⟩
  · rw [findings, Finding.mem_sorted, List.mem_flatMap]
    refine ⟨strictRun, isRun, mem_findingsOf.2 ⟨sink, ?_, ?_⟩⟩
    · rw [sameSeed]
      exact lookedAt
    · rw [sameSeed]
      exact isOther
  · rw [ends_sinkFinding isFound, ends_sinkFinding isOther, sameSeed]

/-- Where propagation is given up, a source and a sink that are connected are flagged. -/
theorem IsFallback.exists_flagged {outcome : PropagationOutcome} (isFallback : graph.IsFallback outcome)
    {source sink : Nat} (connects : graph.Connects source sink) :
    ∃ finding ∈ outcome.findings, finding.verdict = .flagged ∧ finding.ends = (source, sink) := by
  obtain ⟨finding, only⟩ := isFallback.single connects
  have isBetween : finding ∈ outcome.between source sink := by
    rw [only]
    exact List.mem_singleton_self finding
  obtain ⟨isFinding, same⟩ := List.mem_filter.1 isBetween
  exact ⟨finding, isFinding, (isFallback.flagged finding isFinding).1, beq_iff_eq.1 same⟩

/-- Where propagation for a dispatcher that minds case comes to an end, propagation for one that does
not flags all pairs of a source and a sink that the former flags, whether it comes to an end or is
given up. -/
theorem propagateBefore_insensitive_flags {catalog : Catalog} {unitConstants : StringMap String}
    {procedure : Procedure} {graph : FlowGraph}
    (built : FlowGraph.build catalog unitConstants procedure = .ok graph)
    (limits : PropagationLimits) (deadline otherDeadline : Deadline)
    (complete : (graph.propagateBefore deadline (.standard ⟨false⟩) limits).status = .complete) :
    ∀ finding ∈ (graph.propagateBefore deadline (.standard ⟨false⟩) limits).findings,
      finding.verdict = .flagged →
      ∃ other ∈ (graph.propagateBefore otherDeadline (.standard ⟨true⟩) limits).findings,
        other.verdict = .flagged ∧ other.ends = finding.ends := by
  intro finding member flagged
  have wellFormed := isWellFormed_of_build built
  rcases propagateBefore_cases otherDeadline graph (.standard ⟨true⟩) limits with
    ⟨strictComplete, -⟩ | ⟨-, findings⟩
  · exact flagged_of_covers (BarrierRegistry.standard_isAntitone ⟨false⟩)
      BarrierRegistry.standard_covers complete strictComplete member flagged
  · have isFallback := isFallback_of_findings wellFormed findings
    exact isFallback.exists_flagged (connects_of_mem_findings wellFormed member)

/-- The flow through the loop that decodes a path is flagged for either kind of dispatcher. -/
theorem propagateBefore_insensitive_decodingLoop :
    FlowGraph.build DecodingLoop.catalog .empty DecodingLoop.procedure = .ok DecodingLoop.graph ∧
    (DecodingLoop.graph.propagateBefore ⟨none, id, id⟩ (.standard ⟨false⟩)
      ⟨50, 10, true⟩).status = .complete ∧
    ∃ finding ∈ (DecodingLoop.graph.propagateBefore ⟨none, id, id⟩ (.standard ⟨false⟩)
        ⟨50, 10, true⟩).findings,
      finding.verdict = .flagged ∧ finding.ends = (0, 9) ∧
      ∃ other ∈ (DecodingLoop.graph.propagateBefore ⟨none, id, id⟩ (.standard ⟨true⟩)
        ⟨50, 10, true⟩).findings, other.verdict = .flagged ∧ other.ends = (0, 9) := by
  have complete : (DecodingLoop.graph.propagateBefore ⟨none, id, id⟩ (.standard ⟨false⟩)
      ⟨50, 10, true⟩).status = .complete := by cbv
  have found : ((DecodingLoop.graph.propagateBefore ⟨none, id, id⟩ (.standard ⟨false⟩)
      ⟨50, 10, true⟩).findings.map fun finding => (finding.ends, finding.verdict)) =
        [((0, 9), .flagged)] := by cbv
  obtain ⟨finding, only, same⟩ := List.map_eq_singleton_iff.1 found
  obtain ⟨ends, flagged⟩ := Prod.mk.inj same
  have member : finding ∈ (DecodingLoop.graph.propagateBefore ⟨none, id, id⟩ (.standard ⟨false⟩)
      ⟨50, 10, true⟩).findings := by
    rw [only]
    exact List.mem_singleton_self finding
  have flags := propagateBefore_insensitive_flags DecodingLoop.build_eq ⟨50, 10, true⟩
    ⟨none, id, id⟩ ⟨none, id, id⟩ complete finding member flagged
  rw [ends] at flags
  exact ⟨DecodingLoop.build_eq, complete, finding, member, flagged, ends, flags⟩

end FlowGraph

end ForwardTaint
