import ForwardTaint.Proofs.SuppressedFlows
import ForwardTaint.Propagation.Path

/-!
The search for a shortest way.  The queue holds nodes in the order of their distance from the source,
and no two of them differ in it by more than one step; whatever is nearer than the queue has been
looked at.  So the way on which the goal comes to the front is a shortest one, and the search only
ends without it where no way leads there.
-/

namespace ForwardTaint.FlowGraph

variable {graph : FlowGraph} {admits : Nat → Bool} {source goal : Nat}
  {queue : List (Nat × List Nat)} {seen : List Nat}

/-- A way ends with a step to its last node. -/
theorem way_concat_iff {first next last : Nat} {way : List Nat} :
    graph.Way first (way ++ [next]) last ↔
      ∃ middle, graph.Way first way middle ∧ graph.TaintStep middle next ∧ next = last := by
  induction way generalizing first with
  | nil =>
      constructor
      · intro isWay
        cases isWay with
        | step taintStep rest =>
            cases rest
            exact ⟨first, .here, taintStep, rfl⟩
      · rintro ⟨middle, isWay, taintStep, rfl⟩
        cases isWay
        exact .step taintStep .here
  | cons second way inductionHypothesis =>
      constructor
      · intro isWay
        cases isWay with
        | step taintStep rest =>
            obtain ⟨middle, isWay, lastStep, same⟩ := inductionHypothesis.1 rest
            exact ⟨middle, .step taintStep isWay, lastStep, same⟩
      · rintro ⟨middle, isWay, lastStep, same⟩
        cases isWay with
        | step taintStep rest =>
            exact .step taintStep (inductionHypothesis.2 ⟨middle, rest, lastStep, same⟩)

/-- A way all nodes of which but the first are admitted. -/
def AdmittedWay (graph : FlowGraph) (admits : Nat → Bool) (first : Nat) (way : List Nat)
    (last : Nat) : Prop :=
  graph.Way first way last ∧ ∀ number ∈ way, admits number = true

theorem admittedWay_concat_iff {first next last : Nat} {way : List Nat} :
    graph.AdmittedWay admits first (way ++ [next]) last ↔
      ∃ middle, graph.AdmittedWay admits first way middle ∧ graph.TaintStep middle next ∧
        admits next = true ∧ next = last := by
  simp only [AdmittedWay, way_concat_iff, List.forall_mem_append, List.forall_mem_singleton]
  constructor
  · rintro ⟨⟨middle, isWay, lastStep, same⟩, admitted, isAdmitted⟩
    exact ⟨middle, ⟨isWay, admitted⟩, lastStep, isAdmitted, same⟩
  · rintro ⟨middle, ⟨isWay, admitted⟩, lastStep, isAdmitted, same⟩
    exact ⟨⟨middle, isWay, lastStep, same⟩, admitted, isAdmitted⟩

/-- The nodes that the search comes to for the first time from a node. -/
def discovered (graph : FlowGraph) (admits : Nat → Bool) (seen : List Nat) (node : Nat) :
    List Nat :=
  ((graph.taintTargets node).filter fun next => admits next && !seen.contains next).eraseDups

theorem mem_discovered {node next : Nat} :
    next ∈ graph.discovered admits seen node ↔
      graph.TaintStep node next ∧ admits next = true ∧ next ∉ seen := by
  simp [discovered, mem_taintTargets]

theorem searchPath_cons (graph : FlowGraph) (admits : Nat → Bool) (goal rounds node : Nat)
    (back : List Nat) (queue : List (Nat × List Nat)) (seen : List Nat) :
    graph.searchPath admits goal (rounds + 1) ((node, back) :: queue) seen =
      if node = goal then some (node :: back).reverse
      else graph.searchPath admits goal rounds
        (queue ++ (graph.discovered admits seen node).map fun next => (next, node :: back))
        (seen ++ graph.discovered admits seen node) := rfl

/-- What holds of the queue and the nodes seen while the search has not come to the goal.  An entry
of the queue holds a node behind those on the way to it, the source last, so the length of the list is
the number of steps. -/
structure IsSearching (graph : FlowGraph) (admits : Nat → Bool) (source goal : Nat)
    (queue : List (Nat × List Nat)) (seen : List Nat) : Prop where
  started : source ∈ seen
  way : ∀ entry ∈ queue, ∃ way, (entry.1 :: entry.2).reverse = source :: way ∧
    graph.AdmittedWay admits source way entry.1 ∧ (source :: way).Nodup ∧ source :: way ⊆ seen
  ordered : queue.Pairwise fun first second => first.2.length ≤ second.2.length
  close : ∀ first ∈ queue, ∀ second ∈ queue, second.2.length ≤ first.2.length + 1
  least : ∀ entry ∈ queue, ∀ way, graph.AdmittedWay admits source way entry.1 →
    entry.2.length ≤ way.length
  passed : ∀ node ∈ seen, node ∉ queue.map Prod.fst →
    node ≠ goal ∧ ∀ next, graph.TaintStep node next → admits next = true → next ∈ seen

namespace IsSearching

theorem start (graph : FlowGraph) (admits : Nat → Bool) (source goal : Nat) :
    graph.IsSearching admits source goal [(source, [])] [source] where
  started := List.mem_singleton_self source
  way entry member := by
    obtain rfl := List.mem_singleton.1 member
    exact ⟨[], rfl, ⟨.here, nofun⟩, List.nodup_singleton source, List.Subset.refl _⟩
  ordered := List.pairwise_singleton _ _
  close first isFirst second isSecond := by
    obtain rfl := List.mem_singleton.1 isFirst
    obtain rfl := List.mem_singleton.1 isSecond
    exact Nat.le_succ _
  least entry member way _ := by
    obtain rfl := List.mem_singleton.1 member
    exact Nat.zero_le _
  passed node isSeen notQueued := absurd (by simpa using isSeen) (by simpa using notQueued)

/-- The search has passed whatever is nearer than all nodes of the queue. -/
theorem nearer (searching : graph.IsSearching admits source goal queue seen) {way : List Nat}
    {last : Nat} (isWay : graph.AdmittedWay admits source way last)
    (shorter : ∀ entry ∈ queue, way.length < entry.2.length) :
    last ∈ seen ∧ last ∉ queue.map Prod.fst := by
  have notQueued {way : List Nat} {last : Nat} (isWay : graph.AdmittedWay admits source way last)
      (shorter : ∀ entry ∈ queue, way.length < entry.2.length) : last ∉ queue.map Prod.fst := by
    intro isQueued
    obtain ⟨entry, member, rfl⟩ := List.mem_map.1 isQueued
    have atLeast := searching.least entry member way isWay
    have below := shorter entry member
    omega
  refine ⟨?_, notQueued isWay shorter⟩
  -- By induction on the way from its end: the node before the last one was passed, and its targets
  -- with it.
  induction way using List.reverseRecOn generalizing last with
  | nil =>
      cases isWay.1
      exact searching.started
  | append_singleton way next inductionHypothesis =>
      obtain ⟨middle, toMiddle, lastStep, admitted, rfl⟩ := admittedWay_concat_iff.1 isWay
      have shorter : ∀ entry ∈ queue, way.length < entry.2.length := by
        intro entry member
        have below := shorter entry member
        simp only [List.length_append, List.length_singleton] at below
        omega
      have isSeen := inductionHypothesis toMiddle shorter
      exact (searching.passed middle isSeen (notQueued toMiddle shorter)).2 next lastStep admitted

/-- The node at the front of the queue is nearest to the source. -/
theorem front_le {node : Nat} {back : List Nat}
    (searching : graph.IsSearching admits source goal ((node, back) :: queue) seen) :
    ∀ entry ∈ queue, back.length ≤ entry.2.length ∧ entry.2.length ≤ back.length + 1 := by
  intro entry member
  exact ⟨(List.pairwise_cons.1 searching.ordered).1 entry member,
    searching.close _ List.mem_cons_self entry (List.mem_cons_of_mem _ member)⟩

/-- To a node that is discovered from the front no way is shorter than the one through the front. -/
theorem discovered_least {node next : Nat} {back way : List Nat}
    (searching : graph.IsSearching admits source goal ((node, back) :: queue) seen)
    (isNew : next ∉ seen) (isWay : graph.AdmittedWay admits source way next) :
    back.length < way.length := by
  by_contra! shorter
  rcases List.eq_nil_or_concat way with rfl | ⟨before, last, rfl⟩
  · cases isWay.1
    exact isNew searching.started
  · rw [List.concat_eq_append] at isWay shorter
    rw [List.length_append, List.length_singleton] at shorter
    obtain ⟨middle, toMiddle, lastStep, admitted, rfl⟩ := admittedWay_concat_iff.1 isWay
    -- A node that is nearer than the whole queue was passed, so its target would have been seen.
    have nearer : ∀ entry ∈ (node, back) :: queue, before.length < entry.2.length := by
      intro entry member
      rcases List.mem_cons.1 member with rfl | later
      · exact shorter
      · have atLeast := (searching.front_le entry later).1
        omega
    obtain ⟨isSeen, notQueued⟩ := searching.nearer toMiddle nearer
    exact isNew ((searching.passed middle isSeen notQueued).2 last lastStep admitted)

/-- The way through the front of the queue to a node that is discovered from there. -/
theorem way_discovered {node next : Nat} {back : List Nat}
    (searching : graph.IsSearching admits source goal ((node, back) :: queue) seen)
    (taintStep : graph.TaintStep node next) (admitted : admits next = true) (isNew : next ∉ seen) :
    ∃ way, (next :: node :: back).reverse = source :: way ∧
      graph.AdmittedWay admits source way next ∧ (source :: way).Nodup ∧
      source :: way ⊆ seen ++ graph.discovered admits seen node := by
  obtain ⟨way, same, isWay, distinct, isSeen⟩ := searching.way (node, back) List.mem_cons_self
  refine ⟨way ++ [next], ?_, ?_, ?_, ?_⟩
  · rw [List.reverse_cons, same, List.cons_append]
  · exact admittedWay_concat_iff.2 ⟨node, isWay, taintStep, admitted, rfl⟩
  · rw [← List.cons_append, List.nodup_append]
    refine ⟨distinct, List.nodup_singleton next, ?_⟩
    rintro number onWay other isLast rfl
    rw [List.mem_singleton] at isLast
    exact isNew (isLast ▸ isSeen onWay)
  · rw [← List.cons_append]
    refine List.append_subset.2 ⟨List.subset_append_of_subset_left _ isSeen, ?_⟩
    rintro number isLast
    obtain rfl := List.mem_singleton.1 isLast
    exact List.mem_append_right _ (mem_discovered.2 ⟨taintStep, admitted, isNew⟩)

/-- Once the front was looked at, the nodes that are seen and not queued are passed. -/
theorem passed_step {node other : Nat} {back : List Nat}
    (searching : graph.IsSearching admits source goal ((node, back) :: queue) seen)
    (notGoal : node ≠ goal) (isSeen : other ∈ seen ++ graph.discovered admits seen node)
    (notOld : other ∉ queue.map Prod.fst) (notNew : other ∉ graph.discovered admits seen node) :
    other ≠ goal ∧ ∀ next, graph.TaintStep other next → admits next = true →
      next ∈ seen ++ graph.discovered admits seen node := by
  have wasSeen := (List.mem_append.1 isSeen).resolve_right notNew
  by_cases isFront : other = node
  · subst isFront
    refine ⟨notGoal, fun next taintStep admitted => ?_⟩
    by_cases isSeen : next ∈ seen
    · exact List.mem_append_left _ isSeen
    · exact List.mem_append_right _ (mem_discovered.2 ⟨taintStep, admitted, isSeen⟩)
  · have wasPassed : other ∉ ((node, back) :: queue).map Prod.fst := by
      rw [List.map_cons, List.mem_cons, not_or]
      exact ⟨isFront, notOld⟩
    obtain ⟨notGoal, leads⟩ := searching.passed other wasSeen wasPassed
    exact ⟨notGoal, fun next taintStep admitted =>
      List.mem_append_left _ (leads next taintStep admitted)⟩

/-- An entry behind the front was there or stands for a node that is discovered from the front. -/
theorem mem_step {node : Nat} {back : List Nat} {entry : Nat × List Nat}
    (member : entry ∈ queue ++ (graph.discovered admits seen node).map fun next =>
      (next, node :: back)) :
    entry ∈ queue ∨ ∃ next, graph.TaintStep node next ∧ admits next = true ∧ next ∉ seen ∧
      entry = (next, node :: back) := by
  rcases List.mem_append.1 member with member | isNew
  · exact .inl member
  · obtain ⟨next, isDiscovered, rfl⟩ := List.mem_map.1 isNew
    obtain ⟨taintStep, admitted, isNew⟩ := mem_discovered.1 isDiscovered
    exact .inr ⟨next, taintStep, admitted, isNew, rfl⟩

/-- Looking at the front of the queue, which is not the goal. -/
theorem step {node : Nat} {back : List Nat}
    (searching : graph.IsSearching admits source goal ((node, back) :: queue) seen)
    (notGoal : node ≠ goal) :
    graph.IsSearching admits source goal
      (queue ++ (graph.discovered admits seen node).map fun next => (next, node :: back))
      (seen ++ graph.discovered admits seen node) where
  started := List.mem_append_left _ searching.started
  way entry member := by
    rcases mem_step member with isOld | ⟨next, taintStep, admitted, isNew, rfl⟩
    · obtain ⟨way, same, isWay, distinct, isSeen⟩ :=
        searching.way entry (List.mem_cons_of_mem _ isOld)
      exact ⟨way, same, isWay, distinct, List.subset_append_of_subset_left _ isSeen⟩
    · exact searching.way_discovered taintStep admitted isNew
  ordered := by
    refine List.pairwise_append.2 ⟨(List.pairwise_cons.1 searching.ordered).2, ?_, ?_⟩
    · exact List.pairwise_map.2 (List.pairwise_of_forall fun _ _ => Nat.le_refl _)
    · intro first isFirst second isSecond
      obtain ⟨next, -, rfl⟩ := List.mem_map.1 isSecond
      exact (searching.front_le first isFirst).2
  close first isFirst second isSecond := by
    rcases mem_step isFirst with isFirst | ⟨next, -, -, -, rfl⟩
    · rcases mem_step isSecond with isSecond | ⟨next, -, -, -, rfl⟩
      · exact searching.close first (List.mem_cons_of_mem _ isFirst) second
          (List.mem_cons_of_mem _ isSecond)
      · exact Nat.succ_le_succ (searching.front_le first isFirst).1
    · rcases mem_step isSecond with isSecond | ⟨next, -, -, -, rfl⟩
      · exact Nat.le_succ_of_le (searching.front_le second isSecond).2
      · exact Nat.le_succ _
  least entry member way isWay := by
    rcases mem_step member with isOld | ⟨next, -, -, isNew, rfl⟩
    · exact searching.least entry (List.mem_cons_of_mem _ isOld) way isWay
    · exact searching.discovered_least isNew isWay
  passed other isSeen notQueued := by
    rw [List.map_append, List.mem_append, not_or, List.map_map] at notQueued
    obtain ⟨notOld, notNew⟩ := notQueued
    exact searching.passed_step notGoal isSeen notOld fun isNew =>
      notNew (List.mem_map.2 ⟨other, isNew, rfl⟩)

/-- Where the queue is empty, no way leads to the goal. -/
theorem not_admittedWay (searching : graph.IsSearching admits source goal [] seen) (way : List Nat) :
    ¬graph.AdmittedWay admits source way goal := by
  intro isWay
  obtain ⟨isSeen, notQueued⟩ := searching.nearer isWay nofun
  exact (searching.passed goal isSeen notQueued).1 rfl

end IsSearching

/-- Nodes that are discovered are distinct nodes of the graph that were not seen. -/
theorem length_seen_discovered (admits : Nat → Bool)
    (targetsWithin : ∀ edge ∈ graph.edges, edge.target < graph.nodes.size)
    (distinct : seen.Nodup) (within : ∀ node ∈ seen, node < graph.nodes.size) (node : Nat) :
    (seen ++ graph.discovered admits seen node).Nodup ∧
    (∀ other ∈ seen ++ graph.discovered admits seen node, other < graph.nodes.size) ∧
    (seen ++ graph.discovered admits seen node).length ≤ graph.nodes.size := by
  have nodup : (seen ++ graph.discovered admits seen node).Nodup := by
    refine List.nodup_append.2 ⟨distinct, nodup_eraseDups _, ?_⟩
    rintro other isSeen another isNew rfl
    exact (mem_discovered.1 isNew).2.2 isSeen
  have inGraph : ∀ other ∈ seen ++ graph.discovered admits seen node,
      other < graph.nodes.size := by
    intro other member
    rcases List.mem_append.1 member with isSeen | isNew
    · exact within other isSeen
    · obtain ⟨⟨edge, isEdge, -, rfl, -⟩, -, -⟩ := mem_discovered.1 isNew
      exact targetsWithin edge isEdge
  refine ⟨nodup, inGraph, ?_⟩
  have atMost := (nodup.subperm fun other member => List.mem_range.2 (inGraph other member)).length_le
  rwa [List.length_range] at atMost

/-- A search with rounds enough finds a way to the goal if there is one, and none is shorter. -/
theorem searchPath_of_searching
    (targetsWithin : ∀ edge ∈ graph.edges, edge.target < graph.nodes.size) {rounds : Nat}
    (searching : graph.IsSearching admits source goal queue seen) (distinct : seen.Nodup)
    (within : ∀ node ∈ seen, node < graph.nodes.size)
    (enough : queue.length + (graph.nodes.size - seen.length) ≤ rounds)
    (reached : ∃ way, graph.AdmittedWay admits source way goal) :
    ∃ way, graph.searchPath admits goal rounds queue seen = some (source :: way) ∧
      graph.AdmittedWay admits source way goal ∧ (source :: way).Nodup ∧
      ∀ other, graph.AdmittedWay admits source other goal → way.length ≤ other.length := by
  -- A round takes one entry from the queue and may move nodes from the unseen ones to it, so what is
  -- left of both together goes down.
  induction rounds generalizing queue seen with
  | zero =>
      obtain rfl : queue = [] := List.eq_nil_of_length_eq_zero (by omega)
      obtain ⟨way, isWay⟩ := reached
      exact absurd isWay (searching.not_admittedWay way)
  | succ rounds inductionHypothesis =>
      match queue with
      | [] =>
          obtain ⟨way, isWay⟩ := reached
          exact absurd isWay (searching.not_admittedWay way)
      | (node, back) :: queue =>
          rw [searchPath_cons]
          by_cases isGoal : node = goal
          · subst isGoal
            obtain ⟨way, same, isWay, distinct, -⟩ := searching.way (node, back) List.mem_cons_self
            have lengths : back.length = way.length := by
              have both := congrArg List.length same
              simpa using both
            refine ⟨way, by rw [if_pos rfl, same], isWay, distinct, fun other isOther => ?_⟩
            rw [← lengths]
            exact searching.least (node, back) List.mem_cons_self other isOther
          · rw [if_neg isGoal]
            obtain ⟨distinct, within, atMost⟩ :=
              length_seen_discovered admits targetsWithin distinct within node
            refine inductionHypothesis (searching.step isGoal) distinct within ?_
            simp only [List.length_cons, List.length_append, List.length_map] at *
            omega

/-- The way goes from the first node to the last one through nodes with a property, enters none twice,
and no such way is shorter. -/
structure IsShortestWay (graph : FlowGraph) (through : Nat → Prop) (first : Nat) (way : List Nat)
    (last : Nat) : Prop where
  isWay : graph.Way first way last
  passes : ∀ number ∈ first :: way, through number
  distinct : (first :: way).Nodup
  shortest : ∀ other, graph.Way first other last → (∀ number ∈ first :: other, through number) →
    way.length ≤ other.length

/-- Where ways through admitted nodes are the ways through nodes with a property, the search finds a
shortest one if there is one. -/
theorem searchPath_isShortestWay
    (targetsWithin : ∀ edge ∈ graph.edges, edge.target < graph.nodes.size)
    (within : source < graph.nodes.size) {through : Nat → Prop}
    (alike : ∀ way, graph.Way source way goal →
      ((∀ number ∈ way, admits number = true) ↔ ∀ number ∈ source :: way, through number))
    {known : List Nat} (isWay : graph.Way source known goal)
    (passes : ∀ number ∈ source :: known, through number) :
    ∃ way, graph.searchPath admits goal graph.nodes.size [(source, [])] [source] =
        some (source :: way) ∧
      graph.IsShortestWay through source way goal := by
  have inGraph : ∀ node ∈ [source], node < graph.nodes.size := by
    intro node member
    rwa [List.mem_singleton.1 member]
  have enough : [(source, ([] : List Nat))].length + (graph.nodes.size - [source].length) ≤
      graph.nodes.size := by
    simp only [List.length_singleton]
    omega
  obtain ⟨way, found, isShortest, distinct, shortest⟩ := searchPath_of_searching targetsWithin
    (.start graph admits source goal) (List.nodup_singleton source) inGraph enough
    ⟨known, isWay, (alike known isWay).2 passes⟩
  refine ⟨way, found, isShortest.1, (alike way isShortest.1).1 isShortest.2, distinct, ?_⟩
  intro other isOther passes
  exact shortest other ⟨isOther, (alike other isOther).2 passes⟩

end ForwardTaint.FlowGraph
