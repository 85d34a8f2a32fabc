import ForwardTaint.FlowGraph.Graph
import Mathlib.Data.List.Nodup
import Mathlib.Data.List.Perm.Subperm
import Mathlib.Logic.Relation
import Mathlib.Tactic.Basic

/-!
Which nodes taint can reach.  The search marks a node when it enters the queue, and looks at as
many nodes as there are; so it marks exactly the nodes at the end of some way of taint.
-/

namespace ForwardTaint.FlowGraph

variable {graph : FlowGraph} {next : Nat → List Nat} {step : Nat → Nat → Prop}

/-- Taint goes from one node to the other in one step. -/
def TaintStep (graph : FlowGraph) (source target : Nat) : Prop :=
  ∃ edge ∈ graph.edges, edge.source = source ∧ edge.target = target ∧
    edge.label.carriesTaint = true

/-- Taint goes from one node to the other in any number of steps. -/
def TaintPath (graph : FlowGraph) : Nat → Nat → Prop := Relation.ReflTransGen graph.TaintStep

theorem mem_taintTargets {source target : Nat} :
    target ∈ graph.taintTargets source ↔ graph.TaintStep source target := by
  simp only [taintTargets, outgoing, List.mem_map, List.mem_filter, beq_iff_eq, TaintStep]
  constructor
  · rintro ⟨edge, ⟨⟨member, starts⟩, carries⟩, ends⟩
    exact ⟨edge, member, starts, ends, carries⟩
  · rintro ⟨edge, member, starts, ends, carries⟩
    exact ⟨edge, ⟨⟨member, starts⟩, carries⟩, ends⟩

theorem mem_taintSources {source target : Nat} :
    source ∈ graph.taintSources target ↔ graph.TaintStep source target := by
  simp only [taintSources, incoming, List.mem_map, List.mem_filter, beq_iff_eq, TaintStep]
  constructor
  · rintro ⟨edge, ⟨⟨member, ends⟩, carries⟩, starts⟩
    exact ⟨edge, member, starts, ends, carries⟩
  · rintro ⟨edge, member, starts, ends, carries⟩
    exact ⟨edge, ⟨⟨member, ends⟩, carries⟩, starts⟩

/-- The node is marked. -/
def Marked (seen : Array Bool) (node : Nat) : Prop := seen[node]? = some true

theorem marked_iff_getD {seen : Array Bool} {node : Nat} :
    Marked seen node ↔ seen.getD node false = true := by
  rw [Marked, Array.getD_eq_getD_getElem?]
  cases seen[node]? <;> simp

theorem size_markAll (nodes : List Nat) (seen : Array Bool) :
    (nodes.foldl (fun seen node => seen.set! node true) seen).size = seen.size := by
  induction nodes generalizing seen with
  | nil => rfl
  | cons node nodes inductionHypothesis =>
      rw [List.foldl_cons, inductionHypothesis]
      exact Array.size_setIfInBounds

/-- Marking nodes leaves all others as they were. -/
theorem marked_markAll {nodes : List Nat} {seen : Array Bool} {node : Nat} :
    Marked (nodes.foldl (fun seen node => seen.set! node true) seen) node ↔
      Marked seen node ∨ node ∈ nodes ∧ node < seen.size := by
  induction nodes generalizing seen with
  | nil => simp
  | cons first nodes inductionHypothesis =>
      have size : (seen.set! first true).size = seen.size := Array.size_setIfInBounds
      have here : Marked (seen.set! first true) node ↔
          Marked seen node ∨ node = first ∧ node < seen.size := by
        unfold Marked
        rw [Array.set!_eq_setIfInBounds, Array.getElem?_setIfInBounds]
        by_cases same : first = node
        · subst same
          rw [if_pos rfl]
          by_cases within : first < seen.size
          · simp [within]
          · simp [within]
        · rw [if_neg same]
          simp [Ne.symm same]
      rw [List.foldl_cons, inductionHypothesis, here, size, List.mem_cons]
      grind

/-- The nodes that are not marked yet. -/
def unseen (seen : Array Bool) : List Nat :=
  (List.range seen.size).filter fun node => seen[node]? == some false

theorem mem_unseen {seen : Array Bool} {node : Nat} :
    node ∈ unseen seen ↔ node < seen.size ∧ ¬Marked seen node := by
  rw [unseen, List.mem_filter, List.mem_range, Marked]
  refine and_congr_right fun within => ?_
  rw [Array.getElem?_eq_getElem within]
  cases seen[node] <;> simp

theorem length_unseen_le (seen : Array Bool) : (unseen seen).length ≤ seen.size := by
  have atMost := List.length_filter_le (fun node => seen[node]? == some false)
    (List.range seen.size)
  rwa [List.length_range] at atMost

/-- Nodes that are marked for the first time are no longer unseen. -/
theorem length_unseen_markAll (nodes : List Nat) (seen : Array Bool) (distinct : nodes.Nodup)
    (areUnseen : ∀ node ∈ nodes, node ∈ unseen seen) :
    nodes.length + (unseen (nodes.foldl (fun seen node => seen.set! node true) seen)).length ≤
      (unseen seen).length := by
  rw [← List.length_append]
  have notBoth : List.Disjoint nodes
      (unseen (nodes.foldl (fun seen node => seen.set! node true) seen)) := by
    intro node member isUnseen
    have within := (mem_unseen.1 (areUnseen node member)).1
    exact (mem_unseen.1 isUnseen).2 (marked_markAll.2 (.inr ⟨member, within⟩))
  have areDistinct := List.nodup_append'.2
    ⟨distinct, (List.nodup_range (n := _)).filter _, notBoth⟩
  have areOld : nodes ++ unseen (nodes.foldl (fun seen node => seen.set! node true) seen) ⊆
      unseen seen := by
    intro node member
    rcases List.mem_append.1 member with isNew | isUnseen
    · exact areUnseen node isNew
    · obtain ⟨within, notMarked⟩ := mem_unseen.1 isUnseen
      rw [size_markAll] at within
      exact mem_unseen.2 ⟨within, fun marked => notMarked (marked_markAll.2 (.inl marked))⟩
  exact (areDistinct.subperm areOld).length_le

/-- No node is listed twice. -/
theorem nodup_eraseDups : (nodes : List Nat) → nodes.eraseDups.Nodup
  | [] => by simp
  | node :: rest => by
      rw [List.eraseDups_cons, List.nodup_cons]
      refine ⟨?_, nodup_eraseDups (rest.filter fun other => !other == node)⟩
      rw [List.mem_eraseDups, List.mem_filter]
      rintro ⟨-, different⟩
      simp at different
  termination_by nodes => nodes.length
  decreasing_by exact Nat.lt_succ_of_le (List.length_filter_le _ _)

/-- The nodes behind a node that are marked when it is looked at. -/
def newTargets (next : Nat → List Nat) (seen : Array Bool) (node : Nat) : List Nat :=
  ((next node).filter fun other => seen[other]? == some false).eraseDups

theorem mem_newTargets {seen : Array Bool} {node other : Nat} :
    other ∈ newTargets next seen node ↔ other ∈ next node ∧ other ∈ unseen seen := by
  rw [newTargets, List.mem_eraseDups, List.mem_filter, mem_unseen, Marked]
  refine and_congr_right fun _ => ?_
  rcases Nat.lt_or_ge other seen.size with within | beyond
  · rw [Array.getElem?_eq_getElem within]
    cases seen[other] <;> simp [within]
  · rw [Array.getElem?_eq_none beyond]
    simp [beyond]

theorem explore_cons (next : Nat → List Nat) (rounds node : Nat) (queue : List Nat)
    (seen : Array Bool) :
    explore next (rounds + 1) (node :: queue) seen =
      explore next rounds (queue ++ newTargets next seen node)
        ((newTargets next seen node).foldl (fun seen other => seen.set! other true) seen) := rfl

theorem size_explore (next : Nat → List Nat) (rounds : Nat) (queue : List Nat)
    (seen : Array Bool) : (explore next rounds queue seen).size = seen.size := by
  induction rounds generalizing queue seen with
  | zero => rfl
  | succ rounds inductionHypothesis =>
      cases queue with
      | nil => rfl
      | cons node queue => rw [explore_cons, inductionHypothesis, size_markAll]

/-- The search unmarks nothing. -/
theorem marked_explore {rounds : Nat} {queue : List Nat} {seen : Array Bool} {node : Nat}
    (marked : Marked seen node) : Marked (explore next rounds queue seen) node := by
  induction rounds generalizing queue seen with
  | zero => simpa [explore] using marked
  | succ rounds inductionHypothesis =>
      cases queue with
      | nil => simpa [explore] using marked
      | cons first queue =>
          rw [explore_cons]
          exact inductionHypothesis (marked_markAll.2 (.inl marked))

/-- The search marks only what the nodes of the queue lead to. -/
theorem explore_sound {reached : Nat → Prop} {rounds : Nat} {queue : List Nat} {seen : Array Bool}
    (leads : ∀ node other, reached node → other ∈ next node → other < seen.size → reached other)
    (fromQueue : ∀ node ∈ queue, reached node) (fromSeen : ∀ node, Marked seen node → reached node)
    {node : Nat} (marked : Marked (explore next rounds queue seen) node) : reached node := by
  induction rounds generalizing queue seen with
  | zero => exact fromSeen node (by simpa [explore] using marked)
  | succ rounds inductionHypothesis =>
      cases queue with
      | nil => exact fromSeen node (by simpa [explore] using marked)
      | cons first queue =>
          rw [explore_cons] at marked
          have fromNew : ∀ other ∈ newTargets next seen first, reached other := by
            intro other isNew
            obtain ⟨isNext, isUnseen⟩ := mem_newTargets.1 isNew
            exact leads first other (fromQueue first List.mem_cons_self) isNext
              (mem_unseen.1 isUnseen).1
          refine inductionHypothesis ?_ ?_ ?_ marked
          · rw [size_markAll]
            exact leads
          · intro other member
            rcases List.mem_append.1 member with old | isNew
            · exact fromQueue other (List.mem_cons_of_mem _ old)
            · exact fromNew other isNew
          · intro other isMarked
            rcases marked_markAll.1 isMarked with old | ⟨isNew, -⟩
            · exact fromSeen other old
            · exact fromNew other isNew

/-- With enough rounds the search ends with all nodes marked that marked nodes lead to. -/
theorem explore_closed {rounds : Nat} {queue : List Nat} {seen : Array Bool}
    (enough : queue.length + (unseen seen).length ≤ rounds)
    (closed : ∀ node, Marked seen node → node ∉ queue → ∀ other ∈ next node,
      other < seen.size → Marked seen other) {node other : Nat}
    (marked : Marked (explore next rounds queue seen) node) (isNext : other ∈ next node)
    (within : other < seen.size) : Marked (explore next rounds queue seen) other := by
  induction rounds generalizing queue seen with
  | zero =>
      have isEmpty : queue = [] := List.eq_nil_of_length_eq_zero (by omega)
      subst isEmpty
      simp only [explore] at *
      exact closed node marked List.not_mem_nil other isNext within
  | succ rounds inductionHypothesis =>
      cases queue with
      | nil =>
          simp only [explore] at *
          exact closed node marked List.not_mem_nil other isNext within
      | cons first queue =>
          rw [explore_cons] at *
          have fewer := length_unseen_markAll (newTargets next seen first) seen
            (nodup_eraseDups _) fun other isNew => (mem_newTargets.1 isNew).2
          apply inductionHypothesis _ _ marked (by rwa [size_markAll])
          · rw [List.length_append]
            rw [List.length_cons] at enough
            omega
          · intro node isMarked notQueued other isNext within
            rw [size_markAll] at within
            rw [List.mem_append, not_or] at notQueued
            rcases marked_markAll.1 isMarked with old | ⟨isNew, -⟩
            · by_cases isFirst : node = first
              · subst isFirst
                by_cases already : Marked seen other
                · exact marked_markAll.2 (.inl already)
                · have isNew : other ∈ newTargets next seen node :=
                    mem_newTargets.2 ⟨isNext, mem_unseen.2 ⟨within, already⟩⟩
                  exact marked_markAll.2 (.inr ⟨isNew, within⟩)
              · have notQueued' : node ∉ first :: queue := by
                  rw [List.mem_cons, not_or]
                  exact ⟨isFirst, notQueued.1⟩
                exact marked_markAll.2 (.inl (closed node old notQueued' other isNext within))
            · exact absurd isNew notQueued.2

/-- The steps between two nodes of the graph. -/
def Inside (graph : FlowGraph) (step : Nat → Nat → Prop) (source target : Nat) : Prop :=
  source < graph.nodes.size ∧ target < graph.nodes.size ∧ step source target

/-- Taint goes from one node to the other in any number of steps between nodes of the graph. -/
def InnerPath (graph : FlowGraph) : Nat → Nat → Prop :=
  Relation.ReflTransGen (graph.Inside graph.TaintStep)

/-- A path inside the graph starts at a node of the graph exactly if it ends at one. -/
theorem lt_size_iff_of_path {first last : Nat}
    (path : Relation.ReflTransGen (graph.Inside step) first last) :
    first < graph.nodes.size ↔ last < graph.nodes.size := by
  induction path with
  | refl => rfl
  | tail _ inside inductionHypothesis =>
      exact inductionHypothesis.trans (iff_of_true inside.1 inside.2.1)

/-- Where all steps end at nodes of the graph, paths from a node of the graph stay among them. -/
theorem path_inside_iff (endsWithin : ∀ source target, step source target →
    target < graph.nodes.size) {first last : Nat} (within : first < graph.nodes.size) :
    Relation.ReflTransGen (graph.Inside step) first last ↔ Relation.ReflTransGen step first last := by
  constructor
  · exact Relation.ReflTransGen.mono (fun _ _ inside => inside.2.2) _ _
  · intro path
    induction path with
    | refl => exact .refl
    | tail _ isStep inductionHypothesis =>
        have startsWithin := (lt_size_iff_of_path inductionHypothesis).1 within
        exact inductionHypothesis.tail ⟨startsWithin, endsWithin _ _ isStep, isStep⟩

/-- The queue with which a search begins: those of the starts that are nodes, each once. -/
def startQueue (graph : FlowGraph) (starts : List Nat) : List Nat :=
  (starts.filter (· < graph.nodes.size)).eraseDups

/-- The marks with which a search begins. -/
def startMarks (graph : FlowGraph) (starts : List Nat) : Array Bool :=
  (graph.startQueue starts).foldl (fun seen start => seen.set! start true)
    (Array.replicate graph.nodes.size false)

theorem exploreFrom_eq (graph : FlowGraph) (next : Nat → List Nat) (starts : List Nat) :
    graph.exploreFrom next starts =
      explore next graph.nodes.size (graph.startQueue starts) (graph.startMarks starts) := rfl

theorem mem_startQueue {starts : List Nat} {node : Nat} :
    node ∈ graph.startQueue starts ↔ node ∈ starts ∧ node < graph.nodes.size := by
  rw [startQueue, List.mem_eraseDups, List.mem_filter, decide_eq_true_iff]

theorem size_startMarks (graph : FlowGraph) (starts : List Nat) :
    (graph.startMarks starts).size = graph.nodes.size := by
  rw [startMarks, size_markAll, Array.size_replicate]

theorem not_marked_replicate {count node : Nat} : ¬Marked (Array.replicate count false) node := by
  intro isMarked
  rw [Marked, Array.getElem?_replicate] at isMarked
  split at isMarked <;> simp at isMarked

/-- At first the nodes of the queue are marked and no others. -/
theorem marked_startMarks {starts : List Nat} {node : Nat} :
    Marked (graph.startMarks starts) node ↔ node ∈ graph.startQueue starts := by
  rw [startMarks, marked_markAll, Array.size_replicate]
  constructor
  · rintro (isMarked | ⟨member, -⟩)
    · exact absurd isMarked not_marked_replicate
    · exact member
  · intro member
    exact .inr ⟨member, (mem_startQueue.1 member).2⟩

/-- A search that begins has as many rounds as there are nodes to look at. -/
theorem length_startQueue_add_unseen_le (graph : FlowGraph) (starts : List Nat) :
    (graph.startQueue starts).length + (unseen (graph.startMarks starts)).length ≤
      graph.nodes.size := by
  have fewer := length_unseen_markAll (graph.startQueue starts)
    (Array.replicate graph.nodes.size false) (nodup_eraseDups _) fun node member =>
      mem_unseen.2 ⟨by rw [Array.size_replicate]; exact (mem_startQueue.1 member).2,
        not_marked_replicate⟩
  have atMost := length_unseen_le (Array.replicate graph.nodes.size false)
  rw [Array.size_replicate] at atMost
  exact Nat.le_trans fewer atMost

/-- A search from some nodes marks what the steps that it follows lead to inside the graph. -/
theorem marked_exploreFrom (follows : ∀ node other, other ∈ next node ↔ step node other)
    {starts : List Nat} {node : Nat} :
    Marked (graph.exploreFrom next starts) node ↔
      ∃ start ∈ starts, start < graph.nodes.size ∧
        Relation.ReflTransGen (graph.Inside step) start node := by
  have size := graph.size_startMarks starts
  rw [exploreFrom_eq]
  constructor
  · have started : ∀ start ∈ graph.startQueue starts, ∃ first ∈ starts,
        first < graph.nodes.size ∧ Relation.ReflTransGen (graph.Inside step) first start := by
      intro start member
      obtain ⟨isStart, within⟩ := mem_startQueue.1 member
      exact ⟨start, isStart, within, .refl⟩
    refine explore_sound ?_ started fun start isMarked => started start (marked_startMarks.1 isMarked)
    rintro node other ⟨start, member, startWithin, path⟩ isNext within
    have nodeWithin := (lt_size_iff_of_path path).1 startWithin
    exact ⟨start, member, startWithin,
      path.tail ⟨nodeWithin, Nat.lt_of_lt_of_eq within size, (follows node other).1 isNext⟩⟩
  · rintro ⟨start, isStart, startWithin, path⟩
    have closed : ∀ node, Marked (graph.startMarks starts) node →
        node ∉ graph.startQueue starts → ∀ other ∈ next node,
          other < (graph.startMarks starts).size → Marked (graph.startMarks starts) other :=
      fun node isMarked notQueued => absurd (marked_startMarks.1 isMarked) notQueued
    induction path with
    | refl => exact marked_explore (marked_startMarks.2 (mem_startQueue.2 ⟨isStart, startWithin⟩))
    | tail _ inside inductionHypothesis =>
        obtain ⟨-, endsWithin, isStep⟩ := inside
        exact explore_closed (graph.length_startQueue_add_unseen_le starts) closed
          inductionHypothesis ((follows _ _).2 isStep) (Nat.lt_of_lt_of_eq endsWithin size.symm)

/-- A search has one mark for each node. -/
theorem size_exploreFrom (graph : FlowGraph) (next : Nat → List Nat) (starts : List Nat) :
    (graph.exploreFrom next starts).size = graph.nodes.size := by
  rw [exploreFrom_eq, size_explore, size_startMarks]

/-- The search forwards marks the ends of the paths from the node. -/
theorem marked_reachableFrom_iff {start node : Nat} :
    Marked (graph.reachableFrom start) node ↔
      start < graph.nodes.size ∧ graph.InnerPath start node := by
  rw [reachableFrom, marked_exploreFrom fun _ _ => mem_taintTargets]
  constructor
  · rintro ⟨start', member, within, path⟩
    obtain rfl := List.mem_singleton.1 member
    exact ⟨within, path⟩
  · rintro ⟨within, path⟩
    exact ⟨start, List.mem_singleton_self start, within, path⟩

/-- The search backwards marks the starts of the paths to the targets. -/
theorem marked_reaching_iff {targets : List Nat} {node : Nat} :
    Marked (graph.reaching targets) node ↔
      ∃ target ∈ targets, target < graph.nodes.size ∧ graph.InnerPath node target := by
  rw [reaching, marked_exploreFrom fun _ _ => mem_taintSources]
  have against : graph.Inside (fun target source => graph.TaintStep source target) =
      Function.swap (graph.Inside graph.TaintStep) := by
    funext target source
    exact propext and_left_comm
  rw [against]
  exact exists_congr fun target => and_congr_right fun _ => and_congr_right fun _ =>
    Relation.reflTransGen_swap

/-- The nodes that are marked as within reach of a node are those that taint reaches from there. -/
theorem reachableFrom_iff {start node : Nat}
    (targetsWithin : ∀ edge ∈ graph.edges, edge.target < graph.nodes.size)
    (within : start < graph.nodes.size) :
    (graph.reachableFrom start).getD node false = true ↔ graph.TaintPath start node := by
  rw [← marked_iff_getD, marked_reachableFrom_iff, and_iff_right within]
  refine path_inside_iff ?_ within
  rintro source target ⟨edge, member, -, rfl, -⟩
  exact targetsWithin edge member

/-- The nodes that are marked as reaching some nodes are those from which taint reaches one of them. -/
theorem reaching_iff {targets : List Nat} {node : Nat}
    (sourcesWithin : ∀ edge ∈ graph.edges, edge.source < graph.nodes.size)
    (within : ∀ target ∈ targets, target < graph.nodes.size) :
    (graph.reaching targets).getD node false = true ↔
      ∃ target ∈ targets, graph.TaintPath node target := by
  rw [← marked_iff_getD, reaching, marked_exploreFrom fun _ _ => mem_taintSources]
  refine exists_congr fun target => and_congr_right fun member => ?_
  have endsWithin : ∀ target source, graph.TaintStep source target → source < graph.nodes.size := by
    rintro target source ⟨edge, isEdge, rfl, -, -⟩
    exact sourcesWithin edge isEdge
  rw [and_iff_right (within target member), path_inside_iff endsWithin (within target member)]
  exact Relation.reflTransGen_swap

end ForwardTaint.FlowGraph
