import ForwardTaint.Proofs.OpenPaths
import ForwardTaint.Propagation.Outcome

/-!
Which flows are reported when propagation comes to an end: for each pair of a source and a sink one
finding or none, flagged exactly when taint gets from the one to a checked argument of the other
with no effective guard between them, and in the order of their keys.
-/

namespace ForwardTaint

namespace Finding

/-- The source and the sink of a finding. -/
def ends (finding : Finding) : Nat × Nat := (finding.source.node, finding.sink.node)

theorem isOrdered_iff {first second : List Nat} :
    isOrdered first second = true ↔ first = second ∨ List.Lex (· < ·) first second := by
  induction first generalizing second with
  | nil => cases second <;> simp [isOrdered]
  | cons number numbers inductionHypothesis =>
      cases second with
      | nil => simp [isOrdered]
      | cons number' numbers' =>
          simp only [isOrdered, Bool.or_eq_true, Bool.and_eq_true, decide_eq_true_iff, beq_iff_eq,
            inductionHypothesis, List.cons.injEq, List.cons_lex_cons_iff]
          rw [and_or_left, or_left_comm]

/-- Of two lists of numbers one stands before the other. -/
theorem isOrdered_total (first second : List Nat) :
    (isOrdered first second || isOrdered second first) = true := by
  induction first generalizing second with
  | nil => rfl
  | cons number numbers inductionHypothesis =>
      cases second with
      | nil => rfl
      | cons number' numbers' =>
          have later := inductionHypothesis numbers'
          simp only [isOrdered, Bool.or_eq_true, Bool.and_eq_true, decide_eq_true_iff,
            beq_iff_eq] at later ⊢
          rcases Nat.lt_trichotomy number number' with before | same | behind
          · exact .inl (.inl before)
          · exact later.imp (fun before => .inr ⟨same, before⟩) fun behind => .inr ⟨same.symm, behind⟩
          · exact .inr (.inl behind)

/-- Findings of one key have one source and one sink. -/
theorem ends_of_sortKey {first second : Finding} (same : first.sortKey = second.sortKey) :
    first.ends = second.ends := by
  simp only [sortKey, Span.numbers, List.cons_append, List.nil_append, List.cons.injEq] at same
  obtain ⟨-, -, -, -, sink, -, -, -, -, source, -⟩ := same
  rw [ends, ends, sink, source]

@[simp]
theorem mem_sorted {found : Finding} {findings : List Finding} :
    found ∈ sorted findings ↔ found ∈ findings :=
  (List.mergeSort_perm _ _).mem_iff

/-- Findings of different pairs stand in the strict order of their keys. -/
theorem sorted_strict {findings : List Finding} (distinct : (findings.map ends).Nodup) :
    (sorted findings).Pairwise fun first second =>
      List.Lex (· < ·) first.sortKey second.sortKey := by
  have transitive (first second third : Finding)
      (left : isOrdered first.sortKey second.sortKey = true)
      (right : isOrdered second.sortKey third.sortKey = true) :
      isOrdered first.sortKey third.sortKey = true := by
    rw [isOrdered_iff] at *
    rcases left with same | left
    · rwa [same]
    · rcases right with same | right
      · exact .inr (same ▸ left)
      · exact .inr (List.lex_trans Nat.lt_trans left right)
  have total (first second : Finding) := isOrdered_total first.sortKey second.sortKey
  have ordered := List.pairwise_mergeSort transitive total findings
  have permuted := List.mergeSort_perm findings fun first second =>
    isOrdered first.sortKey second.sortKey
  have distinct' : ((sorted findings).map ends).Nodup := (permuted.map ends).nodup_iff.2 distinct
  rw [List.Nodup, List.pairwise_map] at distinct'
  refine (ordered.and distinct').imp ?_
  rintro first second ⟨before, different⟩
  rw [isOrdered_iff] at before
  have notSame : first.sortKey ≠ second.sortKey := fun same => different (ends_of_sortKey same)
  exact before.resolve_left notSame

/-- Where pairs are distinct, a finding is the only one of its pair. -/
theorem filter_eq_singleton {findings : List Finding} (distinct : (findings.map ends).Nodup)
    {finding : Finding} (member : finding ∈ findings) :
    findings.filter (fun other => other.ends == finding.ends) = [finding] := by
  induction findings with
  | nil => exact nomatch member
  | cons first findings inductionHypothesis =>
      rw [List.map_cons, List.nodup_cons] at distinct
      obtain ⟨isNew, distinct⟩ := distinct
      rcases List.mem_cons.1 member with rfl | later
      · have none : findings.filter (fun other => other.ends == finding.ends) = [] := by
          rw [List.filter_eq_nil_iff]
          intro other otherMember same
          rw [beq_iff_eq] at same
          exact isNew (same ▸ List.mem_map_of_mem otherMember)
        rw [List.filter_cons_of_pos (by simp), none]
      · have different : ¬((first.ends == finding.ends) = true) := by
          rw [beq_iff_eq]
          intro same
          exact isNew (same ▸ List.mem_map_of_mem later)
        rw [List.filter_cons, if_neg different]
        exact inductionHypothesis distinct later

end Finding

namespace FlowGraph

variable {graph : FlowGraph} {registry : BarrierRegistry} {limits : PropagationLimits}
  {deadline : Deadline}

/-- Sources are the nodes of source calls. -/
theorem IsWellFormed.mem_sources (wellFormed : graph.IsWellFormed) {number : Nat} :
    number ∈ graph.sources ↔
      ∃ node : FlowNode, graph.nodes[number]? = some node ∧ node.kind = .sourceCall := by
  rw [wellFormed.sources.mem_iff]
  refine exists_congr fun node => and_congr_right fun _ => ?_
  unfold FlowNode.isSource
  rw [beq_iff_eq]

theorem node_pathStep (graph : FlowGraph) (number : Nat) :
    (graph.pathStep number).node = number := by
  unfold pathStep
  split <;> rfl

theorem ends_finding (source sink : Nat) (admits : Nat → Bool) (verdict : Verdict)
    (barriers : List AppliedBarrier) (unstable : Bool) :
    (graph.finding limits source sink admits verdict barriers unstable).ends = (source, sink) := by
  rw [Finding.ends, finding, node_pathStep, node_pathStep]

section SinkFinding

variable {run : SourceRun} {reachable : Array Bool} {sink : Nat}

theorem sinkFinding_of_tainted
    (tainted : (run.values.joined (graph.sinkArguments sink)).isTainted = true) :
    ∃ found, graph.sinkFinding? limits run reachable sink = some found ∧
      found.verdict = .flagged := by
  unfold sinkFinding?
  simp only
  rw [if_pos tainted]
  exact ⟨_, rfl, rfl⟩

theorem sinkFinding_of_explained
    (clean : ¬(run.values.joined (graph.sinkArguments sink)).isTainted = true)
    (explain : limits.explainSuppressed = true) :
    ∃ found, graph.sinkFinding? limits run reachable sink = some found ∧
      found.verdict = .suppressedByBarrier := by
  unfold sinkFinding?
  simp only
  rw [if_neg clean, if_pos explain]
  exact ⟨_, rfl, rfl⟩

theorem sinkFinding_of_unexplained
    (clean : ¬(run.values.joined (graph.sinkArguments sink)).isTainted = true)
    (unexplained : ¬limits.explainSuppressed = true) :
    graph.sinkFinding? limits run reachable sink = none := by
  unfold sinkFinding?
  simp only
  rw [if_neg clean, if_neg unexplained]

/-- What is found at a sink: a flagged flow where tainted values arrive, and elsewhere a suppressed one
if it is to be explained. -/
theorem sinkFinding_cases {found : Finding}
    (isFound : graph.sinkFinding? limits run reachable sink = some found) :
    (run.values.joined (graph.sinkArguments sink)).isTainted = true ∧
      found = graph.finding limits run.seed sink (fun node => node == sink || !run.isCleanAt node)
        .flagged [] false ∨
    ¬(run.values.joined (graph.sinkArguments sink)).isTainted = true ∧
      limits.explainSuppressed = true ∧
      found = graph.finding limits run.seed sink (fun node => reachable.getD node false)
        .suppressedByBarrier (run.barriers graph reachable (graph.sinkArguments sink)) false := by
  unfold sinkFinding? at isFound
  simp only at isFound
  split at isFound
  · rename_i tainted
    exact .inl ⟨tainted, (Option.some.inj isFound).symm⟩
  · rename_i clean
    split at isFound
    · rename_i explain
      exact .inr ⟨clean, explain, (Option.some.inj isFound).symm⟩
    · exact nomatch isFound

theorem ends_sinkFinding {found : Finding}
    (isFound : graph.sinkFinding? limits run reachable sink = some found) :
    found.ends = (run.seed, sink) := by
  rcases sinkFinding_cases isFound with ⟨-, rfl⟩ | ⟨-, -, rfl⟩
  · exact ends_finding _ _ _ _ _ _
  · exact ends_finding _ _ _ _ _ _

end SinkFinding

theorem mem_sinksWithin {reachable : Array Bool} {sink : Nat} :
    sink ∈ graph.sinksWithin reachable ↔ sink ∈ graph.sinks ∧
      ∃ argument ∈ graph.sinkArguments sink, reachable.getD argument false = true := by
  rw [sinksWithin, List.mem_filter, List.any_eq_true]

theorem mem_findingsOf {run : SourceRun} {found : Finding} :
    found ∈ graph.findingsOf limits run ↔
      ∃ sink ∈ graph.sinksWithin (graph.reachableFrom run.seed),
        graph.sinkFinding? limits run (graph.reachableFrom run.seed) sink = some found := by
  rw [findingsOf, List.mem_filterMap]

/-- The pairs of the findings of a run are pairs of its seed and the sinks in turn. -/
theorem ends_findingsOf (graph : FlowGraph) (limits : PropagationLimits) (run : SourceRun) :
    ((graph.findingsOf limits run).map Finding.ends).Sublist
      (graph.sinks.map (Prod.mk run.seed)) := by
  have within : ∀ sinks : List Nat,
      ((sinks.filterMap (graph.sinkFinding? limits run (graph.reachableFrom run.seed))).map
        Finding.ends).Sublist (sinks.map (Prod.mk run.seed)) := by
    intro sinks
    induction sinks with
    | nil => exact .slnil
    | cons sink sinks inductionHypothesis =>
        rw [List.map_cons]
        cases isFound : graph.sinkFinding? limits run (graph.reachableFrom run.seed) sink with
        | none =>
            rw [List.filterMap_cons_none isFound]
            exact .cons _ inductionHypothesis
        | some found =>
            rw [List.filterMap_cons_some isFound, List.map_cons, ends_sinkFinding isFound]
            exact .cons_cons _ inductionHypothesis
  exact (within _).trans (List.filter_sublist.map _)

/-- No two findings are of one pair where they come in groups, each for a source of its own and the
sinks in turn. -/
theorem nodup_ends_flatMap (wellFormed : graph.IsWellFormed) {Group : Type} {groups : List Group}
    {source : Group → Nat} {findings : Group → List Finding} (distinct : (groups.map source).Nodup)
    (inTurn : ∀ group, ((findings group).map Finding.ends).Sublist
      (graph.sinks.map (Prod.mk (source group)))) :
    ((groups.flatMap findings).map Finding.ends).Nodup := by
  rw [List.map_flatMap, List.nodup_flatMap]
  constructor
  · intro group _
    refine (inTurn group).nodup ?_
    exact wellFormed.sinks.nodup.map fun _ _ same => (Prod.mk.inj same).2
  · rw [List.Nodup, List.pairwise_map] at distinct
    refine distinct.imp ?_
    intro first second different pair left right
    obtain ⟨sink, -, here⟩ := List.mem_map.1 ((inTurn first).subset left)
    obtain ⟨sink', -, there⟩ := List.mem_map.1 ((inTurn second).subset right)
    exact different (Prod.mk.inj (here.trans there.symm)).1

/-- No two findings of runs from different seeds are of one pair. -/
theorem nodup_ends (wellFormed : graph.IsWellFormed) {runs : List SourceRun}
    (distinct : (runs.map SourceRun.seed).Nodup) :
    ((runs.flatMap (graph.findingsOf limits)).map Finding.ends).Nodup :=
  nodup_ends_flatMap wellFormed distinct (ends_findingsOf graph limits)

/-- Runs from sources in turn begin at them and come to an end. -/
theorem reaches_of_runFromBefore {maxVisits : Nat} {sources : List Nat} {runs : List SourceRun}
    {effort effort' : Effort}
    (ran : graph.runFromBefore deadline registry maxVisits sources effort = .ok (runs, effort')) :
    runs.map SourceRun.seed = sources ∧ ∀ run ∈ runs, run.pending = [] ∧
      SourceRun.Reaches graph registry (.start graph run.seed) run := by
  induction sources generalizing runs effort effort' with
  | nil =>
      obtain ⟨rfl, -⟩ := Prod.mk.inj (Except.ok.inj ran)
      exact ⟨rfl, nofun⟩
  | cons source sources inductionHypothesis =>
      rw [runFromBefore] at ran
      cases settled : SourceRun.settleBefore deadline graph registry (maxVisits - effort.visits)
          (.start graph source) effort with
      | error interruption =>
          rw [settled] at ran
          exact nomatch ran
      | ok first =>
          obtain ⟨run, effort₁⟩ := first
          rw [settled] at ran
          cases later : graph.runFromBefore deadline registry maxVisits sources effort₁ with
          | error interruption =>
              simp only [bind, Except.bind, later] at ran
              exact nomatch ran
          | ok rest =>
              obtain ⟨runs', effort₂⟩ := rest
              simp only [bind, Except.bind, later, pure, Except.pure] at ran
              obtain ⟨rfl, -⟩ := Prod.mk.inj (Except.ok.inj ran)
              obtain ⟨reaches, done⟩ := SourceRun.reaches_of_settleBefore settled
              have seeded : run.seed = source :=
                SourceRun.seed_of_reaches (SourceRun.isConsistent_start graph registry source) reaches
              obtain ⟨seeds, finished⟩ := inductionHypothesis later
              refine ⟨?_, ?_⟩
              · rw [List.map_cons, seeded, seeds]
              · intro other member
                rcases List.mem_cons.1 member with rfl | member
                · exact ⟨done, seeded ▸ reaches⟩
                · exact finished other member

/-- The runs behind an outcome that is complete. -/
theorem runs_of_complete
    (complete : (graph.propagateBefore deadline registry limits).status = .complete) :
    ∃ runs effort, graph.runFromBefore deadline registry limits.maxVisits graph.sources .none =
        .ok (runs, effort) ∧
      (graph.propagateBefore deadline registry limits).findings =
        Finding.sorted (runs.flatMap (graph.findingsOf limits)) := by
  unfold propagateBefore at *
  simp only at *
  split at complete
  · rename_i runs effort ran
    exact ⟨runs, effort, ran, rfl⟩
  · exact nomatch complete

/-- Behind each finding of a complete outcome is a finished run from a source, which looked at the
sink. -/
theorem run_of_mem_findings
    (complete : (graph.propagateBefore deadline registry limits).status = .complete)
    {finding : Finding}
    (member : finding ∈ (graph.propagateBefore deadline registry limits).findings) :
    ∃ run, run.seed ∈ graph.sources ∧ run.pending = [] ∧
      SourceRun.Reaches graph registry (.start graph run.seed) run ∧
      ∃ sink ∈ graph.sinksWithin (graph.reachableFrom run.seed),
        graph.sinkFinding? limits run (graph.reachableFrom run.seed) sink = some finding := by
  obtain ⟨runs, effort, ran, findings⟩ := runs_of_complete complete
  obtain ⟨seeds, finished⟩ := reaches_of_runFromBefore ran
  rw [findings, Finding.mem_sorted, List.mem_flatMap] at member
  obtain ⟨run, isRun, isFinding⟩ := member
  obtain ⟨done, reaches⟩ := finished run isRun
  exact ⟨run, seeds ▸ List.mem_map_of_mem isRun, done, reaches, mem_findingsOf.1 isFinding⟩

end FlowGraph

namespace PropagationOutcome

/-- The findings for a source and a sink. -/
def between (outcome : PropagationOutcome) (source sink : Nat) : List Finding :=
  outcome.findings.filter fun finding => finding.ends == (source, sink)

end PropagationOutcome

namespace FlowGraph

variable {graph : FlowGraph} {registry : BarrierRegistry} {limits : PropagationLimits}

/-- Taint gets from the seed of a run to a checked argument of a sink past all closed nodes. -/
def IsOpenFlow (graph : FlowGraph) (run : SourceRun) (sink : Nat) : Prop :=
  ∃ argument ∈ graph.sinkArguments sink, graph.OpenPath run run.seed argument

/-- Taint gets from the seed of a run to a checked argument of a sink if nothing stops it. -/
def IsFlow (graph : FlowGraph) (run : SourceRun) (sink : Nat) : Prop :=
  ∃ argument ∈ graph.sinkArguments sink, graph.TaintPath run.seed argument

/-- What a finished run finds at a sink. -/
structure IsFoundAt (graph : FlowGraph) (limits : PropagationLimits) (run : SourceRun)
    (sink : Nat) (findings : List Finding) : Prop where
  flagged : graph.IsOpenFlow run sink →
    ∃ finding, findings = [finding] ∧ finding.verdict = .flagged
  suppressed : ¬graph.IsOpenFlow run sink → limits.explainSuppressed = true →
    graph.IsFlow run sink →
    ∃ finding, findings = [finding] ∧ finding.verdict = .suppressedByBarrier
  nothing : ¬graph.IsOpenFlow run sink → ¬(limits.explainSuppressed = true ∧ graph.IsFlow run sink) →
    findings = []

/-- A finished run from a source has tainted arguments at a sink exactly where taint gets to one. -/
theorem isTainted_sinkArguments (wellFormed : graph.IsWellFormed) {run : SourceRun}
    (isSource : run.seed ∈ graph.sources)
    (reaches : SourceRun.Reaches graph registry (.start graph run.seed) run)
    (done : run.pending = []) (sink : Nat) :
    (run.values.joined (graph.sinkArguments sink)).isTainted = true ↔
      graph.IsOpenFlow run sink := by
  obtain ⟨source, present, kind⟩ := wellFormed.mem_sources.1 isSource
  rw [NodeValues.isTainted_joined, IsOpenFlow]
  refine exists_congr fun argument => and_congr_right fun _ => ?_
  exact SourceRun.isTainted_iff_openPath wellFormed present kind reaches done

/-- The sinks that are looked at for a source are those that its taint can reach. -/
theorem mem_sinksWithin_reachableFrom (wellFormed : graph.IsWellFormed) {run : SourceRun}
    (isSource : run.seed ∈ graph.sources) (sink : Nat) :
    sink ∈ graph.sinksWithin (graph.reachableFrom run.seed) ↔
      sink ∈ graph.sinks ∧ graph.IsFlow run sink := by
  obtain ⟨source, present, -⟩ := wellFormed.mem_sources.1 isSource
  have within : run.seed < graph.nodes.size := (Array.getElem?_eq_some_iff.1 present).1
  rw [mem_sinksWithin, IsFlow]
  refine and_congr_right fun _ => exists_congr fun argument => and_congr_right fun _ => ?_
  exact reachableFrom_iff wellFormed.target_lt within

/-- The findings of a pair are what the run from its source finds at its sink. -/
theorem isFoundAt_of_runs (wellFormed : graph.IsWellFormed) {runs : List SourceRun}
    (seeds : runs.map SourceRun.seed = graph.sources)
    (finished : ∀ run ∈ runs, run.pending = [] ∧
      SourceRun.Reaches graph registry (.start graph run.seed) run) {run : SourceRun}
    (member : run ∈ runs) {sink : Nat} (isSink : sink ∈ graph.sinks) {findings : List Finding}
    (permuted : findings.Perm (runs.flatMap (graph.findingsOf limits))) :
    graph.IsFoundAt limits run sink
      (findings.filter fun finding => finding.ends == (run.seed, sink)) := by
  have distinctSeeds : (runs.map SourceRun.seed).Nodup := seeds ▸ wellFormed.sources.nodup
  have distinct : (findings.map Finding.ends).Nodup :=
    (permuted.map Finding.ends).nodup_iff.2 (nodup_ends wellFormed distinctSeeds)
  have isSource : run.seed ∈ graph.sources := seeds ▸ List.mem_map_of_mem member
  obtain ⟨done, reaches⟩ := finished run member
  have tainted := isTainted_sinkArguments wellFormed isSource reaches done sink
  have lookedAt := mem_sinksWithin_reachableFrom wellFormed isSource sink
  have single {found : Finding} (flows : graph.IsFlow run sink)
      (isFound : graph.sinkFinding? limits run (graph.reachableFrom run.seed) sink = some found) :
      findings.filter (fun finding => finding.ends == (run.seed, sink)) = [found] := by
    rw [← ends_sinkFinding isFound]
    apply Finding.filter_eq_singleton distinct
    rw [permuted.mem_iff, List.mem_flatMap]
    exact ⟨run, member, mem_findingsOf.2 ⟨sink, lookedAt.2 ⟨isSink, flows⟩, isFound⟩⟩
  constructor
  · intro isOpen
    obtain ⟨argument, isArgument, way⟩ := id isOpen
    obtain ⟨found, isFound, flagged⟩ := sinkFinding_of_tainted (tainted.2 isOpen)
    exact ⟨found, single ⟨argument, isArgument, way.taintPath⟩ isFound, flagged⟩
  · intro notOpen explain flows
    obtain ⟨found, isFound, suppressed⟩ := sinkFinding_of_explained (notOpen ∘ tainted.1) explain
    exact ⟨found, single flows isFound, suppressed⟩
  · intro notOpen notExplained
    rw [List.filter_eq_nil_iff]
    intro found isFinding same
    rw [beq_iff_eq] at same
    rw [permuted.mem_iff, List.mem_flatMap] at isFinding
    obtain ⟨other, otherMember, isFinding⟩ := isFinding
    obtain ⟨otherSink, otherLookedAt, isFound⟩ := mem_findingsOf.1 isFinding
    rw [ends_sinkFinding isFound] at same
    obtain ⟨sameSeed, rfl⟩ := Prod.mk.inj same
    obtain rfl : other = run := List.inj_on_of_nodup_map distinctSeeds otherMember member sameSeed
    have notExplain : ¬limits.explainSuppressed = true := fun explain =>
      notExplained ⟨explain, (lookedAt.1 otherLookedAt).2⟩
    rw [sinkFinding_of_unexplained (notOpen ∘ tainted.1) notExplain] at isFound
    exact nomatch isFound

/-- A propagation that is complete reports of each pair of a source and a sink what the run from the
source finds at the sink, nothing else, and in the strict order of keys. -/
theorem propagateBefore_reports_open_flows {catalog : Catalog} {unitConstants : StringMap String}
    {procedure : Procedure} {graph : FlowGraph}
    (built : FlowGraph.build catalog unitConstants procedure = .ok graph)
    (deadline : Deadline) (registry : BarrierRegistry) (limits : PropagationLimits)
    (complete : (graph.propagateBefore deadline registry limits).status = .complete) :
    ∃ runs effort,
      graph.runFromBefore deadline registry limits.maxVisits graph.sources .none =
        .ok (runs, effort) ∧
      runs.map SourceRun.seed = graph.sources ∧
      (∀ run ∈ runs, ∀ sink ∈ graph.sinks, graph.IsFoundAt limits run sink
        ((graph.propagateBefore deadline registry limits).between run.seed sink)) ∧
      (∀ finding ∈ (graph.propagateBefore deadline registry limits).findings,
        finding.source.node ∈ graph.sources ∧ finding.sink.node ∈ graph.sinks) ∧
      (graph.propagateBefore deadline registry limits).findings.Pairwise
        fun first second => List.Lex (· < ·) first.sortKey second.sortKey := by
  obtain ⟨runs, effort, ran, findings⟩ := runs_of_complete complete
  have wellFormed := isWellFormed_of_build built
  obtain ⟨seeds, finished⟩ := reaches_of_runFromBefore ran
  have permuted : (graph.propagateBefore deadline registry limits).findings.Perm
      (runs.flatMap (graph.findingsOf limits)) := by
    rw [findings]
    exact List.mergeSort_perm _ _
  refine ⟨runs, effort, ran, seeds, ?_, ?_, ?_⟩
  · intro run member sink isSink
    exact isFoundAt_of_runs wellFormed seeds finished member isSink permuted
  · intro finding isFinding
    rw [permuted.mem_iff, List.mem_flatMap] at isFinding
    obtain ⟨run, member, isFinding⟩ := isFinding
    obtain ⟨sink, lookedAt, isFound⟩ := mem_findingsOf.1 isFinding
    obtain ⟨source, sinkEnd⟩ := Prod.mk.inj (ends_sinkFinding isFound)
    rw [source, sinkEnd]
    exact ⟨seeds ▸ List.mem_map_of_mem member, (mem_sinksWithin.1 lookedAt).1⟩
  · rw [findings]
    exact Finding.sorted_strict (nodup_ends wellFormed (seeds ▸ wellFormed.sources.nodup))

/-- The loop that decodes a path ends its propagation with the flow to the forward. -/
theorem propagateBefore_reports_decodingLoop :
    FlowGraph.build DecodingLoop.catalog .empty DecodingLoop.procedure = .ok DecodingLoop.graph ∧
    (DecodingLoop.graph.propagateBefore ⟨some 0, id, id⟩ (.standard ⟨true⟩)
      ⟨50, 10, true⟩).status = .complete ∧
    ∃ runs effort, DecodingLoop.graph.runFromBefore ⟨some 0, id, id⟩ (.standard ⟨true⟩) 50
        DecodingLoop.graph.sources .none = .ok (runs, effort) ∧ runs.map SourceRun.seed = [0] ∧
      ∀ run ∈ runs, DecodingLoop.graph.IsFoundAt ⟨50, 10, true⟩ run 9
        ((DecodingLoop.graph.propagateBefore ⟨some 0, id, id⟩ (.standard ⟨true⟩)
          ⟨50, 10, true⟩).between run.seed 9) := by
  have complete : (DecodingLoop.graph.propagateBefore ⟨some 0, id, id⟩ (.standard ⟨true⟩)
      ⟨50, 10, true⟩).status = .complete := by cbv
  have isSink : 9 ∈ DecodingLoop.graph.sinks := List.mem_singleton_self 9
  obtain ⟨runs, effort, ran, seeds, found, -, -⟩ := propagateBefore_reports_open_flows
    DecodingLoop.build_eq ⟨some 0, id, id⟩ (.standard ⟨true⟩) ⟨50, 10, true⟩ complete
  exact ⟨DecodingLoop.build_eq, complete, runs, effort, ran, seeds,
    fun run member => found run member 9 isSink⟩

end FlowGraph

end ForwardTaint
