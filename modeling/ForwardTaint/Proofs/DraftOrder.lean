import ForwardTaint.Proofs.GraphConstruction

/-!
What the construction keeps to when it changes a draft: a sink is fed a checked argument, a guard
node is the only one for its variable and an outcome of its guard, and an edge back falls to the
head of a loop.  Guard nodes are added for the guards from some number on only, so the nodes of
earlier guards stay the same.
-/

namespace ForwardTaint

namespace FlowNode

/-- The number is that of a guard node for the variable and an outcome of a guard. -/
def GuardAt (nodes : Array FlowNode) (number guard : Nat) (outcome : Bool) (subject : String) :
    Prop :=
  ∃ node, nodes[number]? = some node ∧ node.kind = .guard guard outcome ∧
    node.variableName = some subject

/-- The number is that of a node that holds a variable at the head of a loop. -/
def LoopHeadAt (nodes : Array FlowNode) (number : Nat) : Prop :=
  ∃ node name, nodes[number]? = some node ∧ node.kind = .phi ∧ node.variableName = some name ∧
    node.text = "loop " ++ name

end FlowNode

/-- A sink with these edges has one from an argument that it checks. -/
def NodeKind.IsFed (kind : NodeKind) (sources : List (Nat × EdgeLabel)) : Prop :=
  ∀ positions, kind = .sinkCall positions →
    ∃ source ∈ sources, ∃ position ∈ positions, source.2.kind = .argument position

theorem NodeKind.isFed_of_not_sink {kind : NodeKind}
    (notSink : ∀ positions, kind ≠ .sinkCall positions) (sources : List (Nat × EdgeLabel)) :
    kind.IsFed sources :=
  fun positions isSink => absurd isSink (notSink positions)

namespace Draft

open FlowNode

variable {lowest : Nat} {first second third : Draft}

/-- One change of a draft that adds nodes only for guards from a number on. -/
inductive Move (lowest : Nat) : Draft → Draft → Prop
  | node {draft : Draft} {node : FlowNode} {sources : List (Nat × EdgeLabel)}
      (notGuard : ∀ guard outcome, node.kind ≠ .guard guard outcome)
      (forward : ∀ source ∈ sources, source.2.kind ≠ .loopBack) (fed : node.kind.IsFed sources) :
      Move lowest draft (draft.withNode node sources)
  | guardNode {draft : Draft} {text subject : String} {span : Span} {definition guard : Nat}
      {outcome : Bool} (above : lowest ≤ guard) (within : guard < draft.guards.size)
      (isFirst : ∀ number, ¬GuardAt draft.nodes number guard outcome subject) :
      Move lowest draft (draft.withNode ⟨.guard guard outcome, text, span, some subject⟩
        [(definition, .refinement guard outcome)])
  | backEdge {draft : Draft} {source target : Nat} (falls : target < source)
      (isHead : LoopHeadAt draft.nodes target) :
      Move lowest draft { draft with edges := ⟨source, target, .plain .loopBack⟩ :: draft.edges }
  | guard {draft : Draft} {condition : GuardCondition} :
      Move lowest draft { draft with guards := draft.guards.push condition }
  | level {draft : Draft} {depth : Nat} : Move lowest draft { draft with depth }
  | declaration {draft : Draft} {declaredTypes : StringMap String} :
      Move lowest draft { draft with declaredTypes }
  | undefinedRead {draft : Draft} {undefinedReads : StringMap Nat} :
      Move lowest draft { draft with undefinedReads }

/-- Any number of changes that add nodes only for guards from a number on. -/
def MovesAbove (lowest : Nat) : Draft → Draft → Prop := Relation.ReflTransGen (Move lowest)

/-- Any number of changes that add nodes only for new guards. -/
def Moves (first second : Draft) : Prop := MovesAbove first.guards.size first second

theorem MovesAbove.trans (left : MovesAbove lowest first second)
    (right : MovesAbove lowest second third) : MovesAbove lowest first third :=
  Relation.ReflTransGen.trans left right

theorem MovesAbove.mono {lowest' : Nat} (moves : MovesAbove lowest' first second)
    (atMost : lowest ≤ lowest') : MovesAbove lowest first second := by
  refine Relation.ReflTransGen.mono (fun _ _ move => ?_) _ _ moves
  cases move with
  | node notGuard forward fed => exact .node notGuard forward fed
  | guardNode above within isFirst =>
      exact .guardNode (Nat.le_trans atMost above) within isFirst
  | backEdge falls isHead => exact .backEdge falls isHead
  | guard => exact .guard
  | level => exact .level
  | declaration => exact .declaration
  | undefinedRead => exact .undefinedRead

theorem Move.extends (move : Move lowest first second) : first.Extends second := by
  cases move with
  | node | guardNode => exact extends_withNode _ _ _
  | guard => exact extends_pushGuard _ _
  | backEdge | level | declaration | undefinedRead => exact ⟨id, id⟩

theorem MovesAbove.extends (moves : MovesAbove lowest first second) : first.Extends second :=
  extends_of_reflTransGen (fun _ _ => Move.extends) moves

theorem MovesAbove.size_le (moves : MovesAbove lowest first second) :
    first.nodes.size ≤ second.nodes.size :=
  size_le_of_stays moves.extends.node

theorem MovesAbove.guards_le (moves : MovesAbove lowest first second) :
    first.guards.size ≤ second.guards.size :=
  size_le_of_stays moves.extends.guard

theorem Moves.refl (draft : Draft) : Moves draft draft := Relation.ReflTransGen.refl

theorem Moves.trans (left : Moves first second) (right : Moves second third) :
    Moves first third :=
  MovesAbove.trans left (right.mono left.guards_le)

theorem Move.moves (move : Move first.guards.size first second) : Moves first second := .single move

theorem MovesAbove.getElem? (moves : MovesAbove lowest first second) {number : Nat}
    {node : FlowNode} (present : first.nodes[number]? = some node) :
    second.nodes[number]? = some node :=
  moves.extends.node present

theorem MovesAbove.getElem?_guards (moves : MovesAbove lowest first second) {number : Nat}
    {condition : GuardCondition} (present : first.guards[number]? = some condition) :
    second.guards[number]? = some condition :=
  moves.extends.guard present

theorem MovesAbove.loopHeadAt (moves : MovesAbove lowest first second) {number : Nat}
    (isHead : LoopHeadAt first.nodes number) : LoopHeadAt second.nodes number := by
  obtain ⟨node, name, present, isHead⟩ := isHead
  exact ⟨node, name, moves.getElem? present, isHead⟩

theorem MovesAbove.guardAt (moves : MovesAbove lowest first second) {number guard : Nat}
    {outcome : Bool} {subject : String} (isGuard : GuardAt first.nodes number guard outcome subject) :
    GuardAt second.nodes number guard outcome subject := by
  obtain ⟨node, present, isGuard⟩ := isGuard
  exact ⟨node, moves.getElem? present, isGuard⟩

/-- A guard node is the new one or was there. -/
theorem guardAt_withNode {draft : Draft} {node : FlowNode} {sources : List (Nat × EdgeLabel)}
    {number guard : Nat} {outcome : Bool} {subject : String} :
    GuardAt (draft.withNode node sources).nodes number guard outcome subject ↔
      number = draft.nodes.size ∧ node.kind = .guard guard outcome ∧
          node.variableName = some subject ∨
        GuardAt draft.nodes number guard outcome subject := by
  unfold GuardAt
  constructor
  · rintro ⟨other, present, isGuard⟩
    rw [getElem?_withNode] at present
    split at present
    · rename_i isNew
      obtain rfl := Option.some.inj present
      exact .inl ⟨isNew, isGuard⟩
    · exact .inr ⟨other, present, isGuard⟩
  · rintro (⟨rfl, isGuard⟩ | ⟨other, present, isGuard⟩)
    · exact ⟨node, getElem?_withNode_new _ _ _, isGuard⟩
    · exact ⟨other, getElem?_withNode_of_some present, isGuard⟩

/-- Guards below the number get no more nodes. -/
theorem MovesAbove.guardAt_iff (moves : MovesAbove lowest first second) {number guard : Nat}
    {outcome : Bool} {subject : String} (below : guard < lowest) :
    GuardAt second.nodes number guard outcome subject ↔
      GuardAt first.nodes number guard outcome subject := by
  induction moves with
  | refl => rfl
  | tail _ move inductionHypothesis =>
      rw [← inductionHypothesis]
      cases move with
      | node notGuard =>
          rw [guardAt_withNode, or_iff_right]
          exact fun isNew => notGuard guard outcome isNew.2.1
      | guardNode above =>
          rw [guardAt_withNode, or_iff_right]
          rintro ⟨-, isGuard, -⟩
          obtain ⟨rfl, -⟩ := NodeKind.guard.inj isGuard
          exact absurd below (Nat.not_lt.2 above)
      | backEdge | guard | level | declaration | undefinedRead => rfl

/-- Guard nodes belong to guards. -/
def KnowsGuards (draft : Draft) : Prop :=
  ∀ number guard outcome subject, GuardAt draft.nodes number guard outcome subject →
    guard < draft.guards.size

theorem KnowsGuards.move (knows : first.KnowsGuards) (moves : MovesAbove lowest first second) :
    second.KnowsGuards := by
  induction moves with
  | refl => exact knows
  | tail _ move inductionHypothesis =>
      intro number guard outcome subject isGuard
      cases move with
      | node notGuard =>
          rcases guardAt_withNode.1 isGuard with isNew | old
          · exact absurd isNew.2.1 (notGuard guard outcome)
          · exact inductionHypothesis number guard outcome subject old
      | guardNode above within =>
          rcases guardAt_withNode.1 isGuard with ⟨-, isGuard, -⟩ | old
          · obtain ⟨rfl, -⟩ := NodeKind.guard.inj isGuard
            exact within
          · exact inductionHypothesis number guard outcome subject old
      | guard =>
          rw [Array.size_push]
          exact Nat.lt_succ_of_lt (inductionHypothesis number guard outcome subject isGuard)
      | backEdge | level | declaration | undefinedRead =>
          exact inductionHypothesis number guard outcome subject isGuard

/-- What the changes keep: edges back fall to heads of loops, no two guard nodes are for the same
variable and outcome of a guard, and every sink is fed a checked argument. -/
structure IsOrdered (draft : Draft) : Prop where
  falls : ∀ edge ∈ draft.edges, edge.label.kind = .loopBack →
    edge.target < edge.source ∧ LoopHeadAt draft.nodes edge.target
  distinct : ∀ number other guard outcome subject,
    GuardAt draft.nodes number guard outcome subject →
      GuardAt draft.nodes other guard outcome subject → number = other
  fed : ∀ number node positions, draft.nodes[number]? = some node →
    node.kind = .sinkCall positions →
      ∃ edge ∈ draft.edges, edge.target = number ∧
        ∃ position ∈ positions, edge.label.kind = .argument position

theorem isOrdered_empty : IsOrdered .empty where
  falls _ member := absurd member List.not_mem_nil
  distinct _ _ _ _ _ isGuard := by
    obtain ⟨node, present, -⟩ := isGuard
    simp [empty] at present
  fed _ _ _ present := by simp [empty] at present

/-- A node with forward edges keeps the order when it is no second guard node and is fed. -/
theorem IsOrdered.withNode {draft : Draft} (ordered : draft.IsOrdered) {node : FlowNode}
    {sources : List (Nat × EdgeLabel)} (forward : ∀ source ∈ sources, source.2.kind ≠ .loopBack)
    (isFirst : ∀ number guard outcome subject, node.kind = .guard guard outcome →
      node.variableName = some subject → ¬GuardAt draft.nodes number guard outcome subject)
    (fed : node.kind.IsFed sources) : (draft.withNode node sources).IsOrdered := by
  refine ⟨fun edge member isBack => ?_, ?_, fun number other positions present isSink => ?_⟩
  · rcases mem_edges_withNode.1 member with ⟨source, isSource, rfl⟩ | old
    · exact absurd isBack (forward source isSource)
    · obtain ⟨falls, head, name, present, isHead⟩ := ordered.falls edge old isBack
      exact ⟨falls, head, name, getElem?_withNode_of_some present, isHead⟩
  · intro number other guard outcome subject isGuard isGuard'
    rcases guardAt_withNode.1 isGuard with ⟨rfl, kind, named⟩ | old <;>
      rcases guardAt_withNode.1 isGuard' with ⟨rfl, kind', named'⟩ | old'
    · rfl
    · exact absurd old' (isFirst other guard outcome subject kind named)
    · exact absurd old (isFirst number guard outcome subject kind' named')
    · exact ordered.distinct number other guard outcome subject old old'
  · rw [getElem?_withNode] at present
    split at present
    · rename_i isNew
      obtain rfl := Option.some.inj present
      obtain ⟨source, isSource, position, isChecked, isArgument⟩ := fed positions isSink
      exact ⟨_, mem_edges_withNode.2 (.inl ⟨source, isSource, rfl⟩), isNew.symm, position,
        isChecked, isArgument⟩
    · obtain ⟨edge, member, leads⟩ := ordered.fed number other positions present isSink
      exact ⟨edge, mem_edges_withNode.2 (.inr member), leads⟩

theorem IsOrdered.move (ordered : first.IsOrdered) (moves : MovesAbove lowest first second) :
    second.IsOrdered := by
  induction moves with
  | refl => exact ordered
  | tail _ move inductionHypothesis =>
      cases move with
      | node notGuard forward fed =>
          exact inductionHypothesis.withNode forward
            (fun _ guard outcome _ isGuard => absurd isGuard (notGuard guard outcome)) fed
      | guardNode above within isFirst =>
          refine inductionHypothesis.withNode (fun source member => ?_)
            (fun number guard outcome subject isGuard named => ?_)
            (NodeKind.isFed_of_not_sink (by simp) _)
          · rw [List.mem_singleton.1 member]
            exact nofun
          · obtain ⟨rfl, rfl⟩ := NodeKind.guard.inj isGuard
            rw [← Option.some.inj named]
            exact isFirst number
      | backEdge falls isHead =>
          refine ⟨fun edge member isBack => ?_, inductionHypothesis.distinct,
            fun number node positions present isSink => ?_⟩
          · rcases List.mem_cons.1 member with rfl | old
            · exact ⟨falls, isHead⟩
            · exact inductionHypothesis.falls edge old isBack
          · obtain ⟨edge, member, leads⟩ :=
              inductionHypothesis.fed number node positions present isSink
            exact ⟨edge, List.mem_cons_of_mem _ member, leads⟩
      | guard | level | declaration | undefinedRead =>
          exact ⟨inductionHypothesis.falls, inductionHypothesis.distinct, inductionHypothesis.fed⟩

/-- Edges lead on, but for those back; and there is one way into a guard node, from a node that holds
the same variable. -/
structure IsDirected (draft : Draft) : Prop where
  forward : ∀ edge ∈ draft.edges, edge.label.kind ≠ .loopBack → edge.source < edge.target
  refined : ∀ (number : Nat) (node : FlowNode) (guard : Nat) (outcome : Bool),
    draft.nodes[number]? = some node → node.kind = .guard guard outcome →
      ∃ (definition : Nat) (origin : FlowNode),
        draft.edges.filter (fun edge => edge.target == number) =
          [⟨definition, number, .refinement guard outcome⟩] ∧
        draft.nodes[definition]? = some origin ∧ origin.variableName = node.variableName

theorem isDirected_empty : IsDirected .empty where
  forward _ member := absurd member List.not_mem_nil
  refined _ _ _ _ present := by simp [empty] at present

/-- The edges into a node after one was added. -/
theorem edges_into_withNode {draft : Draft} (wellFormed : draft.IsWellFormed) {node : FlowNode}
    {sources : List (Nat × EdgeLabel)} (number : Nat) :
    (draft.withNode node sources).edges.filter (fun edge => edge.target == number) =
      if number = draft.nodes.size then
        (sources.map fun source => ⟨source.1, draft.nodes.size, source.2⟩).reverse
      else draft.edges.filter fun edge => edge.target == number := by
  rw [withNode, List.filter_append]
  split
  · rename_i isNew
    subst isNew
    rw [List.filter_eq_self.2, List.filter_eq_nil_iff.2, List.append_nil]
    · intro edge member leads
      exact Nat.ne_of_lt (wellFormed.target_lt edge member) (eq_of_beq leads)
    · intro edge member
      obtain ⟨source, -, rfl⟩ := List.mem_map.1 (List.mem_reverse.1 member)
      exact beq_self_eq_true _
  · rename_i isOld
    rw [List.filter_eq_nil_iff.2, List.nil_append]
    intro edge member leads
    obtain ⟨source, -, rfl⟩ := List.mem_map.1 (List.mem_reverse.1 member)
    exact isOld (eq_of_beq leads).symm

theorem isDirected_of_step {floor : Nat} (wellFormed : first.IsWellFormed)
    (directed : first.IsDirected) (step : Step floor first second) : second.IsDirected := by
  cases step with
  | @node node sources within admits =>
      refine ⟨fun edge member isForward => ?_, fun number other guard outcome present isGuard => ?_⟩
      · rcases mem_edges_withNode.1 member with ⟨source, isSource, rfl⟩ | old
        · exact (within source isSource).1
        · exact directed.forward edge old isForward
      · rw [edges_into_withNode wellFormed]
        rw [getElem?_withNode] at present
        split at present
        · rename_i isNew
          obtain rfl := Option.some.inj present
          rw [Admits, isGuard] at admits
          obtain ⟨condition, subject, definition, -, -, named, ⟨origin, present', named'⟩, rfl⟩ :=
            admits
          refine ⟨definition, origin, ?_, getElem?_withNode_of_some present', named'.trans named.symm⟩
          rw [if_pos isNew, isNew]
          rfl
        · rename_i isOld
          obtain ⟨definition, origin, ways, present', named⟩ :=
            directed.refined number other guard outcome present isGuard
          rw [if_neg isOld]
          exact ⟨definition, origin, ways, getElem?_withNode_of_some present', named⟩
  | @backEdge source target node within present isJoint =>
      refine ⟨fun edge member isForward => ?_, fun number other guard outcome present' isGuard => ?_⟩
      · rcases List.mem_cons.1 member with rfl | old
        · exact absurd rfl isForward
        · exact directed.forward edge old isForward
      · have different : ¬(target == number) = true := by
          intro same
          obtain rfl := eq_of_beq same
          rw [Option.some.inj (present'.symm.trans present), isJoint] at isGuard
          cases isGuard
        obtain ⟨definition, origin, ways, origin'⟩ :=
          directed.refined number other guard outcome present' isGuard
        exact ⟨definition, origin, (List.filter_cons_of_neg (by exact different)).trans ways, origin'⟩
  | guard | level | declaration | undefinedRead => exact ⟨directed.forward, directed.refined⟩

theorem IsReachable.isDirected {draft : Draft} (reachable : draft.IsReachable) :
    draft.IsDirected := by
  induction reachable with
  | refl => exact isDirected_empty
  | tail before step inductionHypothesis =>
      exact isDirected_of_step (IsReachable.isWellFormed before) inductionHypothesis step

end Draft

namespace Build

variable {First Second : Type} {lowest : Nat} {draft : Draft}

/-- When the step ends, the draft has changed for guards from a number on and the result is as it
should be. -/
def MovesAbove (lowest : Nat) (step : Build First) (draft : Draft) (good : First → Draft → Prop) :
    Prop :=
  ∀ value final, step.run draft = .ok (value, final) →
    draft.MovesAbove lowest final ∧ good value final

/-- When the step ends, the draft has changed for new guards and the result is as it should be. -/
def Moves (step : Build First) (draft : Draft) (good : First → Draft → Prop) : Prop :=
  step.MovesAbove draft.guards.size draft good

theorem MovesAbove.bind {first : Build First} {next : First → Build Second}
    {middle : First → Draft → Prop} {good : Second → Draft → Prop}
    (moves : first.MovesAbove lowest draft middle)
    (then' : ∀ value between, draft.MovesAbove lowest between → middle value between →
      (next value).MovesAbove lowest between good) :
    (first >>= next).MovesAbove lowest draft good :=
  Leads.bind moves then' fun _ _ before after => before.trans after

theorem MovesAbove.mono {step : Build First} {good better : First → Draft → Prop}
    (moves : step.MovesAbove lowest draft good)
    (implies : ∀ value final, draft.MovesAbove lowest final → good value final →
      better value final) : step.MovesAbove lowest draft better :=
  Leads.mono moves fun value final moved holds => ⟨moved, implies value final moved holds⟩

theorem MovesAbove.pure {value : First} {good : First → Draft → Prop} (holds : good value draft) :
    (Pure.pure value : Build First).MovesAbove lowest draft good :=
  Leads.pure .refl holds

theorem Moves.above {step : Build First} {good : First → Draft → Prop}
    (moves : step.Moves draft good) (atMost : lowest ≤ draft.guards.size) :
    step.MovesAbove lowest draft good :=
  Leads.mono moves fun _ _ moved holds => ⟨moved.mono atMost, holds⟩

/-- A step that adds nodes for new guards only, before others that may add some for earlier ones. -/
theorem Moves.bindAbove {first : Build First} {next : First → Build Second}
    {middle : First → Draft → Prop} {good : Second → Draft → Prop}
    (moves : first.Moves draft middle) (atMost : lowest ≤ draft.guards.size)
    (then' : ∀ value between, draft.Moves between → middle value between →
      (next value).MovesAbove lowest between good) :
    (first >>= next).MovesAbove lowest draft good :=
  Leads.bind moves then' fun _ _ before after => (before.mono atMost).trans after

theorem Moves.bind {first : Build First} {next : First → Build Second}
    {middle : First → Draft → Prop} {good : Second → Draft → Prop}
    (moves : first.Moves draft middle)
    (then' : ∀ value between, draft.Moves between → middle value between →
      (next value).Moves between good) : (first >>= next).Moves draft good :=
  moves.bindAbove (Nat.le_refl _) fun value between before holds =>
    (then' value between before holds).above before.guards_le

/-- A step one level deeper moves as it does there, as far as a change of the level leaves the result
as it should be. -/
theorem nested_moves {context : BuildContext} {step : Build First} {good : First → Draft → Prop}
    (stays : ∀ value (final : Draft) depth, good value final → good value { final with depth })
    (moves : step.Moves { draft with depth := draft.depth + 1 } good) :
    (nested context step).Moves draft good := by
  intro value final stops
  obtain ⟨-, between, ends, rfl⟩ := nested_ok.1 stops
  obtain ⟨moved, holds⟩ := moves value between ends
  exact ⟨(Draft.Move.level.moves.trans moved).trans Draft.Move.level.moves, stays _ _ _ holds⟩

theorem declareType_moves (name : String) (typeName : Option String) (draft : Draft) :
    (declareType name typeName).Moves draft fun _ _ => True := by
  intro result final ends
  obtain ⟨declaredTypes, rfl⟩ := declareType_ok ends
  exact ⟨Draft.Move.declaration.moves, trivial⟩

end Build

end ForwardTaint
