import ForwardTaint.FlowGraph.Draft
import Mathlib

/-!
What the construction of a flow graph can do to a draft.  Every change is one of a few steps: a new
node with its edges, an edge back to the head of a loop, a new guard, or a note of names.  What the
steps keep holds of every draft that the construction reaches.
-/

namespace ForwardTaint

namespace FlowNode

variable {nodes : Array FlowNode} {test : FlowNode → Bool} {numbers : List Nat}

/-- The numbers are those of the nodes that pass the test, in ascending order. -/
structure NumbersWhere (nodes : Array FlowNode) (test : FlowNode → Bool) (numbers : List Nat) :
    Prop where
  ascending : numbers.Pairwise (· < ·)
  mem_iff : ∀ number, number ∈ numbers ↔
    ∃ node, nodes[number]? = some node ∧ test node = true

theorem numbersWhere_empty (test : FlowNode → Bool) : NumbersWhere #[] test [] where
  ascending := .nil
  mem_iff number := by simp

theorem NumbersWhere.lt_size (lists : NumbersWhere nodes test numbers) {number : Nat}
    (member : number ∈ numbers) : number < nodes.size := by
  obtain ⟨node, present, -⟩ := (lists.mem_iff number).1 member
  exact (Array.getElem?_eq_some_iff.1 present).1

theorem NumbersWhere.nodup (lists : NumbersWhere nodes test numbers) : numbers.Nodup :=
  lists.ascending.imp Nat.ne_of_lt

/-- A new node has the greatest number, so it is put behind the others if it passes the test. -/
theorem NumbersWhere.push (lists : NumbersWhere nodes test numbers) (node : FlowNode) :
    NumbersWhere (nodes.push node) test
      (if test node then numbers ++ [nodes.size] else numbers) where
  ascending := by
    split
    · refine List.pairwise_append.2 ⟨lists.ascending, List.pairwise_singleton _ _, ?_⟩
      intro number member last isLast
      rw [List.mem_singleton.1 isLast]
      exact lists.lt_size member
    · exact lists.ascending
  mem_iff number := by
    rw [Array.getElem?_push]
    by_cases isNew : number = nodes.size
    · rw [if_pos isNew]
      by_cases passes : test node = true
      · rw [if_pos passes, List.mem_append, List.mem_singleton]
        exact iff_of_true (.inr isNew) ⟨node, rfl, passes⟩
      · rw [if_neg passes]
        refine iff_of_false (fun member => ?_) ?_
        · exact absurd (lists.lt_size member) (Nat.not_lt.2 (Nat.le_of_eq isNew.symm))
        · rintro ⟨other, same, passes'⟩
          exact passes (Option.some.inj same ▸ passes')
    · rw [if_neg isNew, ← lists.mem_iff]
      split
      · rw [List.mem_append, List.mem_singleton, or_iff_left isNew]
      · rfl

end FlowNode

namespace Draft

open FlowNode

/-- The draft with one more node, and edges to it in the order of the sources. -/
def withNode (draft : Draft) (node : FlowNode) (sources : List (Nat × EdgeLabel)) : Draft :=
  { draft.push node with
    edges := (sources.map fun source => ⟨source.1, draft.nodes.size, source.2⟩).reverse ++
      draft.edges }

/-- What stands at the number is a node that holds the variable. -/
def Names (draft : Draft) (number : Nat) (name : String) : Prop :=
  ∃ node, draft.nodes[number]? = some node ∧ node.variableName = some name

/-- The edges that a new node may have: none for a literal, a single refinement of a variable that
the test says something of for a guard, and edges without a tag for all others. -/
def Admits (draft : Draft) (node : FlowNode) (sources : List (Nat × EdgeLabel)) : Prop :=
  match node.kind with
  | .literal => sources = []
  | .guard guard outcome => ∃ condition subject definition,
      draft.guards[guard]? = some condition ∧ subject ∈ condition.subjects outcome ∧
        node.variableName = some subject ∧ draft.Names definition subject ∧
        sources = [(definition, .refinement guard outcome)]
  | _ => ∀ source ∈ sources, source.2.kind ≠ .refine ∧ source.2.tag = none

/-- One change of a draft that adds no edges to the nodes before a number. -/
inductive Step (floor : Nat) : Draft → Draft → Prop
  | node {draft : Draft} {node : FlowNode} {sources : List (Nat × EdgeLabel)}
      (within : ∀ source ∈ sources, source.1 < draft.nodes.size ∧ source.2.kind ≠ .loopBack)
      (admits : draft.Admits node sources) : Step floor draft (draft.withNode node sources)
  | backEdge {draft : Draft} {source target : Nat} {node : FlowNode}
      (within : source < draft.nodes.size) (present : draft.nodes[target]? = some node)
      (isJoint : node.kind = .phi) (above : floor ≤ target) :
      Step floor draft { draft with edges := ⟨source, target, .plain .loopBack⟩ :: draft.edges }
  | guard {draft : Draft} {condition : GuardCondition} (numbered : condition.id = draft.guards.size) :
      Step floor draft { draft with guards := draft.guards.push condition }
  | level {draft : Draft} {depth : Nat} : Step floor draft { draft with depth }
  | declaration {draft : Draft} {declaredTypes : StringMap String} :
      Step floor draft { draft with declaredTypes }
  | undefinedRead {draft : Draft} {name : String} {number : Nat} (names : draft.Names number name) :
      Step floor draft { draft with undefinedReads := draft.undefinedReads.insert name number }

/-- Any number of changes that add no edges to the nodes before a number. -/
def GrowsAbove (floor : Nat) : Draft → Draft → Prop := Relation.ReflTransGen (Step floor)

/-- Any number of changes that add edges to new nodes only. -/
def Grows (first second : Draft) : Prop := GrowsAbove first.nodes.size first second

/-- A draft that the construction can reach. -/
def IsReachable (draft : Draft) : Prop := GrowsAbove 0 .empty draft

theorem GrowsAbove.trans {floor : Nat} {first second third : Draft}
    (left : GrowsAbove floor first second) (right : GrowsAbove floor second third) :
    GrowsAbove floor first third :=
  Relation.ReflTransGen.trans left right

theorem GrowsAbove.mono {floor floor' : Nat} {first second : Draft}
    (grows : GrowsAbove floor' first second) (atMost : floor ≤ floor') :
    GrowsAbove floor first second := by
  refine Relation.ReflTransGen.mono (fun _ _ step => ?_) _ _ grows
  cases step with
  | node within admits => exact .node within admits
  | backEdge within present isJoint above =>
      exact .backEdge within present isJoint (Nat.le_trans atMost above)
  | guard numbered => exact .guard numbered
  | level => exact .level
  | declaration => exact .declaration
  | undefinedRead names => exact .undefinedRead names

theorem nodes_withNode (draft : Draft) (node : FlowNode) (sources : List (Nat × EdgeLabel)) :
    (draft.withNode node sources).nodes = draft.nodes.push node := rfl

/-- The new node, and all that were there before. -/
theorem getElem?_withNode {draft : Draft} {node : FlowNode} {sources : List (Nat × EdgeLabel)}
    (number : Nat) :
    (draft.withNode node sources).nodes[number]? =
      if number = draft.nodes.size then some node else draft.nodes[number]? := by
  rw [nodes_withNode, Array.getElem?_push]

theorem getElem?_withNode_new (draft : Draft) (node : FlowNode)
    (sources : List (Nat × EdgeLabel)) :
    (draft.withNode node sources).nodes[draft.nodes.size]? = some node := by
  rw [getElem?_withNode, if_pos rfl]

/-- A new node takes no other one's place. -/
theorem getElem?_withNode_of_some {draft : Draft} {node old : FlowNode}
    {sources : List (Nat × EdgeLabel)} {number : Nat} (present : draft.nodes[number]? = some old) :
    (draft.withNode node sources).nodes[number]? = some old := by
  obtain ⟨within, -⟩ := Array.getElem?_eq_some_iff.1 present
  rw [getElem?_withNode, if_neg (Nat.ne_of_lt within)]
  exact present

/-- The nodes and the guards of the first draft stand at their numbers in the second one. -/
structure Extends (first second : Draft) : Prop where
  node : ∀ {number : Nat} {node : FlowNode}, first.nodes[number]? = some node →
    second.nodes[number]? = some node
  guard : ∀ {number : Nat} {condition : GuardCondition}, first.guards[number]? = some condition →
    second.guards[number]? = some condition

theorem extends_withNode (draft : Draft) (node : FlowNode) (sources : List (Nat × EdgeLabel)) :
    draft.Extends (draft.withNode node sources) where
  node := getElem?_withNode_of_some
  guard := id

theorem extends_pushGuard (draft : Draft) (condition : GuardCondition) :
    draft.Extends { draft with guards := draft.guards.push condition } where
  node := id
  guard {number condition'} present := by
    obtain ⟨within, -⟩ := Array.getElem?_eq_some_iff.1 present
    rw [Array.getElem?_push, if_neg (Nat.ne_of_lt within)]
    exact present

/-- Changes after each of which nodes and guards stay where they are. -/
theorem extends_of_reflTransGen {change : Draft → Draft → Prop}
    (each : ∀ first second, change first second → first.Extends second) {first second : Draft}
    (changes : Relation.ReflTransGen change first second) : first.Extends second := by
  induction changes with
  | refl => exact ⟨id, id⟩
  | tail _ isChange before =>
      have after := each _ _ isChange
      exact ⟨after.node ∘ before.node, after.guard ∘ before.guard⟩

/-- An array whose items all stay where they are does not get shorter. -/
theorem size_le_of_stays {Item : Type} {first second : Array Item}
    (stays : ∀ {number : Nat} {item : Item}, first[number]? = some item →
      second[number]? = some item) : first.size ≤ second.size := by
  by_contra shorter
  have present := Array.getElem?_eq_getElem (Nat.lt_of_not_le shorter)
  obtain ⟨within, -⟩ := Array.getElem?_eq_some_iff.1 (stays present)
  exact Nat.lt_irrefl _ within

theorem Step.extends {floor : Nat} {first second : Draft} (step : Step floor first second) :
    first.Extends second := by
  cases step with
  | node => exact extends_withNode _ _ _
  | guard => exact extends_pushGuard _ _
  | backEdge | level | declaration | undefinedRead => exact ⟨id, id⟩

theorem GrowsAbove.extends {floor : Nat} {first second : Draft}
    (grows : GrowsAbove floor first second) : first.Extends second :=
  extends_of_reflTransGen (fun _ _ => Step.extends) grows

theorem GrowsAbove.size_le {floor : Nat} {first second : Draft}
    (grows : GrowsAbove floor first second) : first.nodes.size ≤ second.nodes.size :=
  size_le_of_stays grows.extends.node

theorem GrowsAbove.node {floor : Nat} {first second : Draft}
    (grows : GrowsAbove floor first second) {number : Nat} {node : FlowNode}
    (present : first.nodes[number]? = some node) : second.nodes[number]? = some node :=
  grows.extends.node present

theorem GrowsAbove.guard {floor : Nat} {first second : Draft}
    (grows : GrowsAbove floor first second) {number : Nat} {condition : GuardCondition}
    (present : first.guards[number]? = some condition) :
    second.guards[number]? = some condition :=
  grows.extends.guard present

theorem Grows.refl (draft : Draft) : Grows draft draft := Relation.ReflTransGen.refl

theorem Grows.trans {first second third : Draft} (left : Grows first second)
    (right : Grows second third) : Grows first third :=
  GrowsAbove.trans left (right.mono left.size_le)

theorem Step.grows {first second : Draft} (step : Step first.nodes.size first second) :
    Grows first second := .single step

theorem IsReachable.grow {floor : Nat} {first second : Draft} (reachable : first.IsReachable)
    (grows : GrowsAbove floor first second) : second.IsReachable :=
  GrowsAbove.trans reachable (grows.mono (Nat.zero_le _))

/-- Edges without tags added behind their node are edges that it is added with. -/
theorem withNode_plain (draft : Draft) (node : FlowNode) (sources : List (Nat × EdgeKind)) :
    draft.withNode node (sources.map fun source => (source.1, .plain source.2)) =
      { draft.withNode node [] with
        edges := (sources.map fun source =>
          (⟨source.1, draft.nodes.size, .plain source.2⟩ : Edge)).reverse ++
            (draft.withNode node []).edges } := by
  simp only [withNode, List.map_nil, List.reverse_nil, List.nil_append, List.map_map]
  rfl

theorem mem_edges_withNode {draft : Draft} {node : FlowNode} {sources : List (Nat × EdgeLabel)}
    {edge : Edge} :
    edge ∈ (draft.withNode node sources).edges ↔
      (∃ source ∈ sources, edge = ⟨source.1, draft.nodes.size, source.2⟩) ∨ edge ∈ draft.edges := by
  simp only [withNode, List.mem_append, List.mem_reverse, List.mem_map]
  constructor
  · rintro (⟨source, member, rfl⟩ | old)
    · exact .inl ⟨source, member, rfl⟩
    · exact .inr old
  · rintro (⟨source, member, rfl⟩ | old)
    · exact .inl ⟨source, member, rfl⟩
    · exact .inr old

/-- Adding a node with one edge is a change. -/
theorem grows_withNode {draft : Draft} {node : FlowNode} {source : Nat} {label : EdgeLabel}
    (within : source < draft.nodes.size) (forward : label.kind ≠ .loopBack)
    (admits : draft.Admits node [(source, label)]) :
    draft.Grows (draft.withNode node [(source, label)]) := by
  refine Step.grows (.node (fun origin member => ?_) admits)
  rw [List.mem_singleton.1 member]
  exact ⟨within, forward⟩

theorem GrowsAbove.names {floor : Nat} {first second : Draft}
    (grows : GrowsAbove floor first second) {number : Nat} {name : String}
    (names : first.Names number name) : second.Names number name := by
  obtain ⟨node, present, named⟩ := names
  exact ⟨node, grows.node present, named⟩

theorem Names.lt {draft : Draft} {number : Nat} {name : String} (names : draft.Names number name) :
    number < draft.nodes.size := by
  obtain ⟨node, present, -⟩ := names
  obtain ⟨within, -⟩ := Array.getElem?_eq_some_iff.1 present
  exact within

/-- Edges stay too, and to the nodes before the number no edges are added. -/
theorem GrowsAbove.edge_iff {floor : Nat} {first second : Draft}
    (grows : GrowsAbove floor first second) (atMost : floor ≤ first.nodes.size) {edge : Edge}
    (below : edge.target < floor) : edge ∈ second.edges ↔ edge ∈ first.edges := by
  induction grows with
  | refl => rfl
  | tail before step inductionHypothesis =>
      rw [← inductionHypothesis]
      have bound := GrowsAbove.size_le before
      cases step with
      | node =>
          rw [mem_edges_withNode, or_iff_right]
          rintro ⟨source, -, rfl⟩
          exact absurd (Nat.le_trans atMost bound) (Nat.not_le.2 below)
      | backEdge _ _ _ above =>
          rw [List.mem_cons, or_iff_right]
          rintro rfl
          exact absurd below (Nat.not_lt.2 above)
      | guard | level | declaration | undefinedRead => rfl

/-- No edges are added to a node that joins nothing. -/
theorem GrowsAbove.edge_iff_of_node {floor : Nat} {first second : Draft}
    (grows : GrowsAbove floor first second) {node : FlowNode} {edge : Edge}
    (present : first.nodes[edge.target]? = some node) (joinsNothing : node.kind ≠ .phi) :
    edge ∈ second.edges ↔ edge ∈ first.edges := by
  induction grows with
  | refl => rfl
  | @tail middle last before step inductionHypothesis =>
      rw [← inductionHypothesis]
      have stands := GrowsAbove.node before present
      cases step with
      | node =>
          rw [mem_edges_withNode, or_iff_right]
          rintro ⟨source, -, rfl⟩
          obtain ⟨within, -⟩ := Array.getElem?_eq_some_iff.1 stands
          exact Nat.lt_irrefl _ within
      | @backEdge source target joint within isThere isJoint above =>
          rw [List.mem_cons, or_iff_right]
          rintro rfl
          obtain rfl := Option.some.inj (stands.symm.trans isThere)
          exact joinsNothing isJoint
      | guard | level | declaration | undefinedRead => rfl

theorem GrowsAbove.edge {floor : Nat} {first second : Draft}
    (grows : GrowsAbove floor first second) {edge : Edge} (member : edge ∈ first.edges) :
    edge ∈ second.edges := by
  induction grows with
  | refl => exact member
  | tail _ step inductionHypothesis =>
      cases step with
      | node => exact mem_edges_withNode.2 (.inr inductionHypothesis)
      | backEdge => exact List.mem_cons_of_mem _ inductionHypothesis
      | guard | level | declaration | undefinedRead => exact inductionHypothesis

/-- What holds of every draft that the construction reaches: edges stay among the nodes, no edge
leads to a literal, guard nodes belong to guards, sources and sinks are noted in order, and names are
noted for nodes that hold them. -/
structure IsWellFormed (draft : Draft) : Prop where
  source_lt : ∀ edge ∈ draft.edges, edge.source < draft.nodes.size
  target_lt : ∀ edge ∈ draft.edges, edge.target < draft.nodes.size
  literal : ∀ edge ∈ draft.edges, ∀ node : FlowNode, draft.nodes[edge.target]? = some node →
    node.kind ≠ .literal
  guard : ∀ (number : Nat) (node : FlowNode) (guard : Nat) (outcome : Bool),
    draft.nodes[number]? = some node → node.kind = .guard guard outcome →
      ∃ (condition : GuardCondition) (subject : String), draft.guards[guard]? = some condition ∧
        node.variableName = some subject ∧ subject ∈ condition.subjects outcome
  sources : NumbersWhere draft.nodes isSource draft.sources
  sinks : NumbersWhere draft.nodes isSink draft.sinks
  undefinedReads : ∀ name number, draft.undefinedReads.get? name = some number →
    draft.Names number name

theorem isWellFormed_empty : IsWellFormed .empty where
  source_lt _ member := absurd member List.not_mem_nil
  target_lt _ member := absurd member List.not_mem_nil
  literal _ member := absurd member List.not_mem_nil
  guard _ _ _ _ present := absurd present (by simp [empty])
  sources := numbersWhere_empty _
  sinks := numbersWhere_empty _
  undefinedReads _ _ noted := absurd noted (by simp [empty, StringMap.empty, StringMap.get?])

/-- A node that is added with edges it may have. -/
theorem IsWellFormed.withNode {draft : Draft} (wellFormed : draft.IsWellFormed) {node : FlowNode}
    {sources : List (Nat × EdgeLabel)}
    (within : ∀ source ∈ sources, source.1 < draft.nodes.size ∧ source.2.kind ≠ .loopBack)
    (admits : draft.Admits node sources) : (draft.withNode node sources).IsWellFormed where
  source_lt edge member := by
    rw [nodes_withNode, Array.size_push]
    rcases mem_edges_withNode.1 member with ⟨source, isSource, rfl⟩ | old
    · exact Nat.lt_succ_of_lt (within source isSource).1
    · exact Nat.lt_succ_of_lt (wellFormed.source_lt edge old)
  target_lt edge member := by
    rw [nodes_withNode, Array.size_push]
    rcases mem_edges_withNode.1 member with ⟨source, isSource, rfl⟩ | old
    · exact Nat.lt_succ_self _
    · exact Nat.lt_succ_of_lt (wellFormed.target_lt edge old)
  literal edge member target present := by
    rw [getElem?_withNode] at present
    rcases mem_edges_withNode.1 member with ⟨source, isSource, rfl⟩ | old
    · rw [if_pos rfl, Option.some_inj] at present
      intro isLiteral
      rw [← present] at isLiteral
      rw [Admits, isLiteral] at admits
      exact List.not_mem_nil (admits ▸ isSource)
    · rw [if_neg (Nat.ne_of_lt (wellFormed.target_lt edge old))] at present
      exact wellFormed.literal edge old target present
  guard number other guard outcome present kind := by
    rw [getElem?_withNode] at present
    split at present
    · obtain rfl := Option.some.inj present
      rw [Admits, kind] at admits
      obtain ⟨condition, subject, definition, known, member, named, -⟩ := admits
      exact ⟨condition, subject, known, named, member⟩
    · exact wellFormed.guard number other guard outcome present kind
  sources := wellFormed.sources.push node
  sinks := wellFormed.sinks.push node
  undefinedReads name number noted := by
    obtain ⟨named, present, names⟩ := wellFormed.undefinedReads name number noted
    exact ⟨named, getElem?_withNode_of_some present, names⟩

/-- An edge that leads back to a node that joins others. -/
theorem IsWellFormed.backEdge {draft : Draft} (wellFormed : draft.IsWellFormed)
    {source target : Nat} {node : FlowNode} {label : EdgeLabel}
    (within : source < draft.nodes.size) (present : draft.nodes[target]? = some node)
    (isJoint : node.kind = .phi) :
    IsWellFormed { draft with edges := ⟨source, target, label⟩ :: draft.edges } where
  source_lt edge member := by
    rcases List.mem_cons.1 member with rfl | old
    · exact within
    · exact wellFormed.source_lt edge old
  target_lt edge member := by
    rcases List.mem_cons.1 member with rfl | old
    · exact (Array.getElem?_eq_some_iff.1 present).1
    · exact wellFormed.target_lt edge old
  literal edge member other present' := by
    rcases List.mem_cons.1 member with rfl | old
    · obtain rfl := Option.some.inj (present.symm.trans present')
      rw [isJoint]
      exact nofun
    · exact wellFormed.literal edge old other present'
  guard := wellFormed.guard
  sources := wellFormed.sources
  sinks := wellFormed.sinks
  undefinedReads := wellFormed.undefinedReads

/-- A change keeps drafts well formed. -/
theorem isWellFormed_of_step {floor : Nat} {first second : Draft}
    (wellFormed : first.IsWellFormed) (step : Step floor first second) : second.IsWellFormed := by
  cases step with
  | node within admits => exact wellFormed.withNode within admits
  | backEdge within present isJoint => exact wellFormed.backEdge within present isJoint
  | guard =>
      refine { wellFormed with guard := fun number node guard outcome present kind => ?_ }
      obtain ⟨condition, subject, known, rest⟩ :=
        wellFormed.guard number node guard outcome present kind
      exact ⟨condition, subject, (extends_pushGuard _ _).guard known, rest⟩
  | level | declaration => exact { wellFormed with }
  | @undefinedRead name number names =>
      refine { wellFormed with undefinedReads := fun other otherNumber noted => ?_ }
      rw [StringMap.get?_insert] at noted
      split at noted
      · rename_i same
        rw [same, ← Option.some.inj noted]
        exact names
      · exact wellFormed.undefinedReads other otherNumber noted

theorem IsReachable.isWellFormed {draft : Draft} (reachable : draft.IsReachable) :
    draft.IsWellFormed := by
  induction reachable with
  | refl => exact isWellFormed_empty
  | tail _ step inductionHypothesis => exact isWellFormed_of_step inductionHypothesis step

end Draft

namespace Build

variable {First Second : Type}

/-- Two steps end where the second one ends after the first. -/
theorem bind_ok {first : Build First} {next : First → Build Second} {draft final : Draft}
    {value : Second} :
    (first >>= next).run draft = .ok (value, final) ↔
      ∃ middle between, first.run draft = .ok (middle, between) ∧
        (next middle).run between = .ok (value, final) := by
  rw [StateT.run_bind]
  cases first.run draft with
  | error failure =>
      constructor
      · intro failed
        exact nomatch failed
      · rintro ⟨middle, between, failed, -⟩
        exact nomatch failed
  | ok output =>
      obtain ⟨middle, between⟩ := output
      constructor
      · intro ends
        exact ⟨middle, between, rfl, ends⟩
      · rintro ⟨middle', between', same, ends⟩
        obtain ⟨rfl, rfl⟩ := Prod.mk.inj (Except.ok.inj same)
        exact ends

theorem pure_ok {value result : First} {draft final : Draft} :
    (pure value : Build First).run draft = .ok (result, final) ↔ value = result ∧ draft = final := by
  rw [StateT.run_pure]
  simp [pure, Except.pure]

theorem modify_ok {change : Draft → Draft} {draft final : Draft} {result : Unit} :
    (modify change : Build Unit).run draft = .ok (result, final) ↔ change draft = final := by
  simp [modify, modifyGet, MonadStateOf.modifyGet, StateT.modifyGet, StateT.run, pure, Except.pure]

theorem get_ok {draft final result : Draft} :
    (get : Build Draft).run draft = .ok (result, final) ↔ draft = result ∧ draft = final := by
  simp [get, getThe, MonadStateOf.get, StateT.get, StateT.run, pure, Except.pure]

theorem addNode_ok {context : BuildContext} {kind : NodeKind} {text : String} {span : Span}
    {variableName : Option String} {draft final : Draft} {number : Nat} :
    (addNode context kind text span variableName).run draft = .ok (number, final) ↔
      draft.nodes.size < maxNodes ∧ number = draft.nodes.size ∧
        final = draft.withNode ⟨kind, text, span, variableName⟩ [] := by
  simp only [addNode, bind_ok, get_ok]
  constructor
  · rintro ⟨middle, between, ⟨rfl, rfl⟩, ends⟩
    split at ends
    · exact nomatch ends
    · rename_i room
      simp only [bind_ok, pure_ok] at ends
      obtain ⟨_, after, sets, rfl, rfl⟩ := ends
      have same : draft.withNode ⟨kind, text, span, variableName⟩ [] = after :=
        (Prod.mk.inj (Except.ok.inj sets)).2
      exact ⟨Nat.lt_of_not_le room, rfl, same.symm⟩
  · rintro ⟨room, rfl, rfl⟩
    refine ⟨draft, draft, ⟨rfl, rfl⟩, ?_⟩
    rw [if_neg (Nat.not_le.2 room)]
    rfl

theorem addEdge_ok {source target : Nat} {label : EdgeLabel} {draft final : Draft} {result : Unit} :
    (addEdge source target label).run draft = .ok (result, final) ↔
      final = { draft with edges := ⟨source, target, label⟩ :: draft.edges } := by
  rw [addEdge, modify_ok, eq_comm]

theorem addEdges_ok {target : Nat} {sources : List (Nat × EdgeKind)} {draft final : Draft}
    {result : Unit} :
    (addEdges target sources).run draft = .ok (result, final) ↔
      final = { draft with
        edges := (sources.map fun source => ⟨source.1, target, .plain source.2⟩).reverse ++
          draft.edges } := by
  induction sources generalizing draft with
  | nil =>
      rw [addEdges, pure_ok, and_iff_right rfl, eq_comm]
      rfl
  | cons source sources inductionHypothesis =>
      simp only [addEdges, bind_ok, addEdge_ok, inductionHypothesis]
      simp

/-- What follows a node that is added with edges from a list of nodes. -/
theorem addNode_edges_ok {context : BuildContext} {kind : NodeKind} {text : String} {span : Span}
    {variableName : Option String} {sources : List (Nat × EdgeKind)} {next : Nat → Build First}
    {draft final : Draft} {value : First} :
    StateT.run (do
      let node ← addNode context kind text span variableName
      addEdges node sources
      next node) draft = .ok (value, final) ↔
      draft.nodes.size < maxNodes ∧
        (next draft.nodes.size).run (draft.withNode ⟨kind, text, span, variableName⟩
          (sources.map fun source => (source.1, .plain source.2))) = .ok (value, final) := by
  simp only [bind_ok, addNode_ok, addEdges_ok, Draft.withNode_plain]
  constructor
  · rintro ⟨number, between, ⟨room, rfl, rfl⟩, -, after, rfl, ends⟩
    exact ⟨room, ends⟩
  · rintro ⟨room, ends⟩
    exact ⟨_, _, ⟨room, rfl, rfl⟩, (), _, rfl, ends⟩

theorem enter_ok {context : BuildContext} {draft final : Draft} {result : Unit} :
    (enter context).run draft = .ok (result, final) ↔
      draft.depth < maxNesting ∧ final = { draft with depth := draft.depth + 1 } := by
  simp only [enter, bind_ok, modify_ok, get_ok]
  constructor
  · rintro ⟨_, between, rfl, read, _, ⟨rfl, rfl⟩, ends⟩
    split at ends
    · exact nomatch ends
    · rename_i allowed
      exact ⟨Nat.lt_of_succ_le (Nat.le_of_not_lt allowed), (pure_ok.1 ends).2.symm⟩
  · rintro ⟨allowed, rfl⟩
    refine ⟨(), _, rfl, _, _, ⟨rfl, rfl⟩, ?_⟩
    rw [if_neg (Nat.not_lt.2 (Nat.succ_le_of_lt allowed))]
    rfl

/-- A step one level deeper ends if the level is allowed and the step ends there, and gives the level
back. -/
theorem nested_ok {context : BuildContext} {step : Build First} {draft final : Draft}
    {value : First} :
    (nested context step).run draft = .ok (value, final) ↔
      draft.depth < maxNesting ∧ ∃ between,
        step.run { draft with depth := draft.depth + 1 } = .ok (value, between) ∧
        final = { between with depth := between.depth - 1 } := by
  simp only [nested, leave, bind_ok, enter_ok, modify_ok, pure_ok]
  constructor
  · rintro ⟨_, _, ⟨allowed, rfl⟩, _, between, ends, _, _, rfl, rfl, rfl⟩
    exact ⟨allowed, between, ends, rfl⟩
  · rintro ⟨allowed, between, ends, rfl⟩
    exact ⟨(), _, ⟨allowed, rfl⟩, value, between, ends, (), _, rfl, rfl, rfl⟩

theorem declareType_ok {name : String} {typeName : Option String} {draft final : Draft}
    {result : Unit} (declares : (declareType name typeName).run draft = .ok (result, final)) :
    ∃ declaredTypes, final = { draft with declaredTypes } := by
  cases typeName with
  | none => exact ⟨draft.declaredTypes, (pure_ok.1 declares).2.symm⟩
  | some typeName => exact ⟨_, (modify_ok.1 declares).symm⟩

section Leads

variable {step : Build First} {draft : Draft} {reach : Draft → Prop} {good : First → Draft → Prop}

/-- When the step ends, the draft is one of those that it may reach and the result is as it should
be. -/
def Leads (reach : Draft → Prop) (step : Build First) (draft : Draft)
    (good : First → Draft → Prop) : Prop :=
  ∀ value final, step.run draft = .ok (value, final) → reach final ∧ good value final

/-- What the first step reaches is joined with what the next one reaches from there. -/
theorem Leads.bind {next : First → Build Second} {rest : Draft → Draft → Prop}
    {whole : Draft → Prop} {good' : Second → Draft → Prop} (leads : Leads reach step draft good)
    (then' : ∀ value between, reach between → good value between →
      Leads (rest between) (next value) between good')
    (joined : ∀ between final, reach between → rest between final → whole final) :
    Leads whole (step >>= next) draft good' := by
  intro value final ends
  obtain ⟨result, between, firstEnds, nextEnds⟩ := bind_ok.1 ends
  obtain ⟨reached, holds⟩ := leads result between firstEnds
  obtain ⟨reached', holds'⟩ := then' result between reached holds value final nextEnds
  exact ⟨joined between final reached reached', holds'⟩

theorem Leads.pure {value : First} (reached : reach draft) (holds : good value draft) :
    Leads reach (Pure.pure value) draft good := by
  intro result final ends
  obtain ⟨rfl, rfl⟩ := pure_ok.1 ends
  exact ⟨reached, holds⟩

theorem Leads.mono {further : Draft → Prop} {better : First → Draft → Prop}
    (leads : Leads reach step draft good)
    (implies : ∀ value final, reach final → good value final → further final ∧ better value final) :
    Leads further step draft better := by
  intro value final ends
  obtain ⟨reached, holds⟩ := leads value final ends
  exact implies value final reached holds

end Leads

/-- When the step ends, the draft has grown above a number and the result is as it should be. -/
def EnsuresAbove (floor : Nat) (step : Build First) (draft : Draft)
    (good : First → Draft → Prop) : Prop :=
  ∀ value final, step.run draft = .ok (value, final) → draft.GrowsAbove floor final ∧ good value final

/-- When the step ends, the draft has grown and the result is as it should be. -/
def Ensures (step : Build First) (draft : Draft) (good : First → Draft → Prop) : Prop :=
  ∀ value final, step.run draft = .ok (value, final) → draft.Grows final ∧ good value final

theorem EnsuresAbove.bind {floor : Nat} {first : Build First} {next : First → Build Second}
    {draft : Draft} {middle : First → Draft → Prop} {good : Second → Draft → Prop}
    (ensures : first.EnsuresAbove floor draft middle)
    (then' : ∀ value between, draft.GrowsAbove floor between → middle value between →
      (next value).EnsuresAbove floor between good) :
    (first >>= next).EnsuresAbove floor draft good :=
  Leads.bind ensures then' fun _ _ before after => before.trans after

theorem Ensures.above {floor : Nat} {step : Build First} {draft : Draft}
    {good : First → Draft → Prop} (ensures : step.Ensures draft good)
    (atMost : floor ≤ draft.nodes.size) : step.EnsuresAbove floor draft good :=
  Leads.mono ensures fun _ _ grows holds => ⟨grows.mono atMost, holds⟩

/-- A step after which the draft may grow above a lower number. -/
theorem Ensures.bindAbove {floor : Nat} {first : Build First} {next : First → Build Second}
    {draft : Draft} {middle : First → Draft → Prop} {good : Second → Draft → Prop}
    (ensures : first.Ensures draft middle) (atMost : floor ≤ draft.nodes.size)
    (then' : ∀ value between, draft.Grows between → middle value between →
      (next value).EnsuresAbove floor between good) :
    (first >>= next).EnsuresAbove floor draft good :=
  Leads.bind ensures then' fun _ _ before after => (before.mono atMost).trans after

theorem Ensures.bind {first : Build First} {next : First → Build Second} {draft : Draft}
    {middle : First → Draft → Prop} {good : Second → Draft → Prop}
    (ensures : first.Ensures draft middle)
    (then' : ∀ value between, draft.Grows between → middle value between →
      (next value).Ensures between good) : (first >>= next).Ensures draft good :=
  ensures.bindAbove (Nat.le_refl _) fun value between grows holds =>
    (then' value between grows holds).above grows.size_le

theorem Ensures.pure {value : First} {draft : Draft} {good : First → Draft → Prop}
    (holds : good value draft) : (Pure.pure value : Build First).Ensures draft good :=
  Leads.pure (.refl _) holds

theorem Ensures.mono {step : Build First} {draft : Draft} {good better : First → Draft → Prop}
    (ensures : step.Ensures draft good) (implies : ∀ value final, good value final →
      better value final) : step.Ensures draft better :=
  Leads.mono ensures fun value final grows holds => ⟨grows, implies value final holds⟩

/-- A step one level deeper ensures what it does there, as far as a change of the level leaves that
true. -/
theorem nested_ensures {context : BuildContext} {step : Build First} {draft : Draft}
    {good : First → Draft → Prop}
    (stays : ∀ value first second, first.Grows second → good value first → good value second)
    (ensures : ∀ inside, draft.Grows inside → step.Ensures inside good) :
    (nested context step).Ensures draft good := by
  intro value final stops
  obtain ⟨-, between, ends, rfl⟩ := nested_ok.1 stops
  obtain ⟨grows, holds⟩ := ensures _ Draft.Step.level.grows value between ends
  have leaves : between.Grows { between with depth := between.depth - 1 } := Draft.Step.level.grows
  exact ⟨(Draft.Step.level.grows.trans grows).trans leaves, stays value _ _ leaves holds⟩

theorem declareType_ensures (name : String) (typeName : Option String) (draft : Draft) :
    (declareType name typeName).Ensures draft fun _ _ => True := by
  intro result final ends
  obtain ⟨declaredTypes, rfl⟩ := declareType_ok ends
  exact ⟨Draft.Step.declaration.grows, trivial⟩

end Build

end ForwardTaint
