import ForwardTaint.Proofs.DraftOrder
import ForwardTaint.Proofs.OutlineConstruction
import ForwardTaint.Proofs.ReportedFlows

/-!
The order of every graph that is built.  Edges lead on to later nodes, but for those from the end of
a loop's body back to its head, so every cycle passes the head of a loop; a variable has one guard
node for each outcome of a test that says something of it, and one way into it; and every sink takes
an argument that it checks.
-/

namespace ForwardTaint

/-- Each name of a list is once among its names. -/
theorem Names.nodup_distinct (names : List String) : (Names.distinct names).Nodup := by
  have added : ∀ before : List String, before.Nodup → (Names.addAll before names).Nodup := by
    induction names with
    | nil => exact fun _ => id
    | cons first names inductionHypothesis =>
        intro before nodup
        refine inductionHypothesis (Names.add before first) ?_
        unfold Names.add
        split
        · exact nodup
        · rename_i isNew
          exact List.nodup_append_comm.1 (List.nodup_cons.2 ⟨isNew, nodup⟩)
  exact added [] List.nodup_nil

/-- A call that is a sink has an argument that the sink checks. -/
theorem Catalog.exists_of_classify {catalog : Catalog} {signature : CallSignature}
    {positions : List Nat} (isSink : catalog.classify signature = .sink positions) :
    ∃ position ∈ positions, position < signature.arity := by
  unfold classify at isSink
  simp only at isSink
  split at isSink
  · rename_i present found
    obtain rfl := CallRole.sink.inj isSink
    obtain ⟨entry, -, some⟩ := List.exists_of_findSome?_eq_some found
    unfold CatalogEntry.sinkArguments? at some
    split at some
    · simp only [Option.ite_none_left_eq_some, Option.some_inj] at some
      obtain ⟨notEmpty, rfl⟩ := some
      obtain ⟨position, member⟩ := List.exists_mem_of_ne_nil _ (List.isEmpty_eq_false_iff.1
        (Bool.eq_false_iff.2 notEmpty))
      exact ⟨position, member, of_decide_eq_true (List.mem_filter.1 member).2⟩
    · exact nomatch some
  · split at isSink
    · exact nomatch isSink
    · split at isSink <;> exact nomatch isSink

namespace Environment

variable {before middle after : Environment} {size size' : Nat}

/-- Each variable is held by the node that held it before, or by a node from a number on. -/
def Renews (size : Nat) (before after : Environment) : Prop :=
  ∀ name node, after.Defines name node → before.Defines name node ∨ size ≤ node

theorem Renews.refl (size : Nat) (environment : Environment) :
    Renews size environment environment := fun _ _ => .inl

theorem Renews.trans (left : Renews size before middle) (right : Renews size' middle after)
    (atMost : size ≤ size') : Renews size before after := by
  intro name node defined
  rcases right name node defined with old | isNew
  · exact left name node old
  · exact .inr (Nat.le_trans atMost isNew)

theorem Renews.define (renews : Renews size before after) {node : Nat} (isNew : size ≤ node)
    (name : String) : Renews size before (after.define name node) := by
  intro other number defined
  rcases defines_define.1 defined with ⟨-, rfl⟩ | ⟨-, old⟩
  · exact .inr isNew
  · exact renews other number old

theorem Renews.forget (renews : Renews size before after) (name : String) :
    Renews size before (after.forget name) := by
  intro other number defined
  have caught : (after.catching (some name)).Defines other number := defined
  exact renews other number (defines_catching.1 caught).2

end Environment

namespace Build

open FlowNode

variable {context : BuildContext} {environment : Environment} {draft : Draft} {lowest : Nat}
  {Result : Type} {good : Result → Draft → Prop}

/-- A node that is no guard is added with edges, and the construction goes on. -/
theorem addNode_edges_moves {kind : NodeKind} {text : String} {span : Span}
    {variableName : Option String} {sources : List (Nat × EdgeKind)} {next : Nat → Build Result}
    (notGuard : ∀ guard outcome, kind ≠ .guard guard outcome)
    (forward : ∀ source ∈ sources, source.2 ≠ .loopBack)
    (fed : kind.IsFed (sources.map fun source => (source.1, .plain source.2)))
    (next_moves : (next draft.nodes.size).Moves (draft.withNode ⟨kind, text, span, variableName⟩
      (sources.map fun source => (source.1, .plain source.2))) good) :
    Moves (do
      let node ← addNode context kind text span variableName
      addEdges node sources
      next node) draft good := by
  intro value final ends
  obtain ⟨moves, holds⟩ := next_moves value final (addNode_edges_ok.1 ends).2
  refine ⟨Draft.Moves.trans (Draft.Move.moves (.node notGuard (fun source member => ?_) fed)) moves,
    holds⟩
  obtain ⟨origin, isOrigin, rfl⟩ := List.mem_map.1 member
  exact forward origin isOrigin

/-- A node that is no guard is added with one edge, and the construction goes on. -/
theorem addNode_edge_moves {kind : NodeKind} {text : String} {span : Span}
    {variableName : Option String} {source : Nat} {label : EdgeLabel} {next : Nat → Build Result}
    (notGuard : ∀ guard outcome, kind ≠ .guard guard outcome) (forward : label.kind ≠ .loopBack)
    (fed : kind.IsFed [(source, label)])
    (next_moves : (next draft.nodes.size).Moves
      (draft.withNode ⟨kind, text, span, variableName⟩ [(source, label)]) good) :
    Moves (do
      let node ← addNode context kind text span variableName
      addEdge source node label
      next node) draft good := by
  intro value final ends
  obtain ⟨moves, holds⟩ := next_moves value final (addNode_edge_ok ends)
  refine ⟨Draft.Moves.trans (Draft.Move.moves (.node notGuard (fun origin member => ?_) fed)) moves,
    holds⟩
  rw [List.mem_singleton.1 member]
  exact forward

/-- A node that is neither a guard nor a sink is added. -/
theorem addNode_moves {kind : NodeKind} (text : String) (span : Span) (variableName : Option String)
    (notGuard : ∀ guard outcome, kind ≠ .guard guard outcome)
    (notSink : ∀ positions, kind ≠ .sinkCall positions) :
    (addNode context kind text span variableName).Moves draft fun _ final =>
      final.guards = draft.guards := by
  intro number final ends
  obtain ⟨-, rfl, rfl⟩ := addNode_ok.1 ends
  exact ⟨Draft.Move.moves (.node notGuard (fun _ member => nomatch member)
    (NodeKind.isFed_of_not_sink notSink _)), rfl⟩

theorem readVariable_moves (name : String) :
    (readVariable context environment name).Moves draft fun _ final =>
      final.guards = draft.guards := by
  unfold readVariable
  split
  · exact .pure rfl
  · split
    · exact addNode_moves _ _ _ (by simp) (by simp)
    · intro number final ends
      obtain ⟨read, between, gets, ends⟩ := bind_ok.1 ends
      obtain ⟨rfl, rfl⟩ := get_ok.1 gets
      split at ends
      · obtain ⟨-, rfl⟩ := pure_ok.1 ends
        exact ⟨.refl, rfl⟩
      · simp only [bind_ok, modify_ok, pure_ok] at ends
        obtain ⟨node, between, adds, noted, after, rfl, rfl, rfl⟩ := ends
        obtain ⟨moves, kept⟩ := addNode_moves _ _ _ (by simp) (by simp) _ _ adds
        exact ⟨Draft.Moves.trans moves Draft.Move.undefinedRead.moves, kept⟩

theorem receiverType_moves (receiver : Option Expr) (written : Option String) (draft : Draft) :
    (receiverType receiver written).Moves draft fun _ final => final = draft := by
  intro value final ends
  unfold receiverType at ends
  obtain ⟨read, between, gets, ends⟩ := bind_ok.1 ends
  obtain ⟨rfl, rfl⟩ := get_ok.1 gets
  obtain ⟨-, rfl⟩ := pure_ok.1 ends
  exact ⟨.refl, rfl⟩

/-- Each position of a list of nodes has its argument. -/
theorem exists_mem_asArguments (index : Nat) {position : Nat} {nodes : List Nat}
    (within : position < nodes.length) :
    ∃ source ∈ asArguments index nodes, source.2 = .argument (index + position) := by
  induction nodes generalizing index position with
  | nil => exact absurd within (Nat.not_lt_zero _)
  | cons node nodes inductionHypothesis =>
      cases position with
      | zero => exact ⟨_, List.mem_cons_self, rfl⟩
      | succ position =>
          obtain ⟨source, member, isArgument⟩ :=
            inductionHypothesis (index + 1) (Nat.lt_of_succ_lt_succ within)
          refine ⟨source, List.mem_cons_of_mem _ member, ?_⟩
          rw [isArgument, Nat.add_right_comm, Nat.add_assoc]

/-- A call with edges from all its arguments is fed if it is a sink. -/
theorem isFed_of_classify {catalog : Catalog} {signature : CallSignature} {nodes : List Nat}
    {sources : List (Nat × EdgeKind)} (length : nodes.length = signature.arity)
    (takes : ∀ source ∈ asArguments 0 nodes, source ∈ sources) :
    (catalog.classify signature).nodeKind.IsFed
      (sources.map fun source => (source.1, .plain source.2)) := by
  intro positions isSink
  have role : catalog.classify signature = .sink positions := by
    cases role : catalog.classify signature with
    | sink arguments =>
        rw [role] at isSink
        rw [NodeKind.sinkCall.inj isSink]
    | source | sanitizer | neutral =>
        rw [role] at isSink
        exact nomatch isSink
  obtain ⟨position, isChecked, within⟩ := Catalog.exists_of_classify role
  obtain ⟨source, member, isArgument⟩ := exists_mem_asArguments 0 (length ▸ within)
  rw [Nat.zero_add] at isArgument
  exact ⟨_, List.mem_map.2 ⟨source, takes source member, rfl⟩, position, isChecked, isArgument⟩

/-- A node with edges from numbered arguments, whose number is the result. -/
theorem addArguments_moves {kind : NodeKind} (plain : kind.IsPlain) {text : String} {span : Span}
    {sources : List (Nat × EdgeKind)} (forward : ∀ source ∈ sources, source.2 ≠ .loopBack)
    (fed : kind.IsFed (sources.map fun source => (source.1, .plain source.2))) :
    Moves (do
      let node ← addNode context kind text span none
      addEdges node sources
      return node) draft fun _ final => final.guards = draft.guards :=
  addNode_edges_moves plain.2 forward fed (.pure rfl)

theorem addTest_moves (test : Expr) (parts : List Nat) :
    (addTest context test parts).Moves draft fun _ final => final.guards = draft.guards :=
  addArguments_moves (by exact ⟨nofun, nofun⟩) (fun _ member => (mem_asArguments member).2.1)
    (NodeKind.isFed_of_not_sink (by simp) _)

mutual

/-- An expression adds no guards and no guard nodes. -/
theorem lower_moves : (expr : Expr) → {draft : Draft} →
    (lower context environment expr).Moves draft fun _ final =>
      final.guards = draft.guards
  | .literal value, draft => by
      rw [lower]
      refine nested_moves (fun _ _ _ => id) ?_
      exact addNode_moves _ _ _ (by simp) (by simp)
  | .null, draft => by
      rw [lower]
      refine nested_moves (fun _ _ _ => id) ?_
      exact addNode_moves _ _ _ (by simp) (by simp)
  | .variable name, draft => by
      rw [lower]
      refine nested_moves (fun _ _ _ => id) ?_
      exact readVariable_moves name
  | .call receiver written method arguments span, draft => by
      rw [lower]
      refine nested_moves (fun _ _ _ => id) ?_
      refine (lowerOption_moves receiver).bind fun receiverNode second _ kept => ?_
      rw [← kept]
      refine (lowerAll_moves arguments).bind fun nodes third _ ⟨length, kept⟩ => ?_
      rw [← kept]
      refine (receiverType_moves _ _ _).bind fun _ fourth _ same => ?_
      subst same
      refine addArguments_moves (CallRole.isPlain_nodeKind _) (fun source member => ?_)
        (isFed_of_classify length fun source member => List.mem_append_right _ member)
      rcases List.mem_append.1 member with isReceiver | isArgument
      · obtain ⟨number, -, rfl⟩ := List.mem_map.1 isReceiver
        exact nofun
      · exact (mem_asArguments isArgument).2.1
  | .construct className arguments span, draft => by
      rw [lower]
      refine nested_moves (fun _ _ _ => id) ?_
      refine (lowerAll_moves arguments).bind fun nodes second _ ⟨length, kept⟩ => ?_
      rw [← kept]
      exact addArguments_moves (CallRole.isPlain_nodeKind _)
        (fun source member => (mem_asArguments member).2.1) (isFed_of_classify length fun _ => id)
  | .concat operands span, draft => by
      rw [lower]
      refine nested_moves (fun _ _ _ => id) ?_
      refine (lowerOperands_moves operands 0 false).bind
        fun nodes second _ ⟨forward, kept⟩ => ?_
      rw [← kept]
      exact addArguments_moves (by exact ⟨nofun, nofun⟩) forward
        (NodeKind.isFed_of_not_sink (by simp) _)
  | .not operand, draft => by
      rw [lower]
      refine nested_moves (fun _ _ _ => id) ?_
      refine (lower_moves operand).bind fun node second _ kept => ?_
      rw [← kept]
      exact addTest_moves _ _
  | .and left right, draft | .or left right, draft
  | .compare _ left right, draft => by
      rw [lower]
      refine nested_moves (fun _ _ _ => id) ?_
      refine (lower_moves left).bind fun leftNode second _ kept => ?_
      rw [← kept]
      refine (lower_moves right).bind fun rightNode third _ kept => ?_
      rw [← kept]
      exact addTest_moves _ _
  | .cast _ operand, draft => by
      rw [lower]
      refine nested_moves (fun _ _ _ => id) ?_
      exact lower_moves operand

theorem lowerOption_moves : (expr : Option Expr) → {draft : Draft} →
    (lowerOption context environment expr).Moves draft fun _ final =>
      final.guards = draft.guards
  | none, draft => by
      rw [lowerOption]
      exact .pure rfl
  | some expr, draft => by
      rw [lowerOption]
      exact (lower_moves expr).bind fun _ _ _ kept => .pure kept

/-- There is a node for each expression. -/
theorem lowerAll_moves : (exprs : List Expr) → {draft : Draft} →
    (lowerAll context environment exprs).Moves draft fun nodes final =>
      nodes.length = exprs.length ∧ final.guards = draft.guards
  | [], draft => by
      rw [lowerAll]
      exact .pure ⟨rfl, rfl⟩
  | expr :: rest, draft => by
      rw [lowerAll]
      refine (lower_moves expr).bind fun node between _ kept => ?_
      rw [← kept]
      refine (lowerAll_moves rest).bind fun nodes final _ ⟨length, kept⟩ => .pure ⟨?_, kept⟩
      rw [List.length_cons, length, List.length_cons]

theorem lowerOperands_moves : (operands : List Expr) → (index : Nat) → (inQuery : Bool) →
    {draft : Draft} →
    (lowerOperands context environment index inQuery operands).Moves draft
      fun sources final => (∀ source ∈ sources, source.2 ≠ .loopBack) ∧ final.guards = draft.guards
  | [], index, inQuery, draft => by
      rw [lowerOperands]
      exact .pure ⟨(fun _ member => nomatch member), rfl⟩
  | operand :: rest, index, inQuery, draft => by
      rw [lowerOperands]
      refine (lower_moves operand).bind fun node between _ kept => ?_
      rw [← kept]
      refine (lowerOperands_moves rest (index + 1) _).bind
        fun sources final _ ⟨forward, kept⟩ => .pure ⟨fun source member => ?_, kept⟩
      rcases List.mem_cons.1 member with rfl | later
      · cases inQuery <;> exact nofun
      · exact forward source later

end

/-- The guard has no nodes yet. -/
structure IsNewGuard (draft : Draft) (guard : Nat) : Prop where
  within : guard < draft.guards.size
  isFirst : ∀ number outcome subject, ¬GuardAt draft.nodes number guard outcome subject

/-- A test becomes a new guard. -/
theorem addGuard_moves (knows : draft.KnowsGuards) (test : Expr) (span : Span) :
    (addGuard context environment test span).Moves draft fun guard final =>
      guard = (context.scope environment).decompose draft.guards.size test span ∧
        final.guards[guard.id]? = some guard ∧ IsNewGuard final guard.id := by
  intro guard final ends
  simp only [addGuard, bind_ok, get_ok, modify_ok, pure_ok] at ends
  obtain ⟨read, between, ⟨rfl, rfl⟩, result, after, rfl, rfl, rfl⟩ := ends
  refine ⟨Draft.Move.guard.moves, rfl, Array.getElem?_push_size, ?_,
    fun number outcome subject isGuard => ?_⟩
  · rw [Array.size_push]
    exact Nat.lt_succ_self _
  · exact Nat.lt_irrefl _ (knows number _ outcome subject isGuard)

/-- What an outcome of a guard adds to a draft: one guard node for each subject that is defined. -/
structure AddsGuardNodes (guard : Nat) (outcome : Bool) (subjects : List String)
    (environment : Environment) (draft final : Draft) : Prop where
  only : ∀ number other branch subject, GuardAt final.nodes number other branch subject →
    GuardAt draft.nodes number other branch subject ∨
      other = guard ∧ branch = outcome ∧ subject ∈ subjects ∧
        ∃ definition, environment.Defines subject definition
  each : ∀ subject ∈ subjects, ∀ definition, environment.Defines subject definition →
    ∃ number, GuardAt final.nodes number guard outcome subject

/-- All nodes of a guard that had none are for the outcome. -/
theorem AddsGuardNodes.of_isNew {guard : Nat} {outcome : Bool} {subjects : List String}
    {final : Draft} (adds : AddsGuardNodes guard outcome subjects environment draft final)
    (isNew : IsNewGuard draft guard) {number : Nat} {branch : Bool} {subject : String}
    (isGuard : GuardAt final.nodes number guard branch subject) :
    branch = outcome ∧ subject ∈ subjects ∧ ∃ definition, environment.Defines subject definition := by
  rcases adds.only _ _ _ _ isGuard with old | ⟨-, isNext⟩
  · exact absurd old (isNew.isFirst number branch subject)
  · exact isNext

/-- A subject that is not defined gets no node. -/
theorem AddsGuardNodes.skip {guard : Nat} {outcome : Bool} {subject : String}
    {subjects : List String} {final : Draft} (undefined : environment.definitions.get? subject = none)
    (adds : AddsGuardNodes guard outcome subjects environment draft final) :
    AddsGuardNodes guard outcome (subject :: subjects) environment draft final := by
  constructor
  · intro number other branch name isGuard
    rcases adds.only number other branch name isGuard with old | ⟨same, same', member, defined⟩
    · exact .inl old
    · exact .inr ⟨same, same', List.mem_cons_of_mem _ member, defined⟩
  · intro name member definition defined
    rcases List.mem_cons.1 member with rfl | later
    · exact absurd (defined.symm.trans undefined) (Option.some_ne_none _)
    · exact adds.each name later definition defined

/-- A subject that is defined gets a node, before the others do. -/
theorem AddsGuardNodes.cons {guard definition : Nat} {outcome : Bool} {text subject : String}
    {span : Span} {subjects : List String} {sources : List (Nat × EdgeLabel)} {final : Draft}
    (defined : environment.Defines subject definition) (notLater : subject ∉ subjects)
    (kept : GuardAt final.nodes draft.nodes.size guard outcome subject)
    (adds : AddsGuardNodes guard outcome subjects (environment.define subject draft.nodes.size)
      (draft.withNode ⟨.guard guard outcome, text, span, some subject⟩ sources) final) :
    AddsGuardNodes guard outcome (subject :: subjects) environment draft final := by
  have different {name : String} (member : name ∈ subjects) : name ≠ subject :=
    fun same => notLater (same ▸ member)
  constructor
  · intro number other branch name isGuard
    rcases adds.only number other branch name isGuard with before | ⟨rfl, rfl, member, isDefined⟩
    · rcases Draft.guardAt_withNode.1 before with ⟨-, kind, named⟩ | old
      · obtain ⟨rfl, rfl⟩ := NodeKind.guard.inj kind
        obtain rfl := Option.some.inj named
        exact .inr ⟨rfl, rfl, List.mem_cons_self, definition, defined⟩
      · exact .inl old
    · obtain ⟨node, defined'⟩ := isDefined
      refine .inr ⟨rfl, rfl, List.mem_cons_of_mem _ member, node, ?_⟩
      rcases Environment.defines_define.1 defined' with ⟨same, -⟩ | ⟨-, old⟩
      · exact absurd same (different member)
      · exact old
  · intro name member node defined'
    rcases List.mem_cons.1 member with rfl | later
    · exact ⟨_, kept⟩
    · refine adds.each name later node (Environment.defines_define.2 (.inr ?_))
      exact ⟨different later, defined'⟩

/-- The first refinement by an outcome adds guard nodes. -/
theorem refineAll_moves {guard : GuardCondition} {outcome : Bool} {subjects : List String}
    (distinct : subjects.Nodup) (above : lowest ≤ guard.id) (within : guard.id < draft.guards.size)
    (isFirst : ∀ subject ∈ subjects, ∀ number,
      ¬GuardAt draft.nodes number guard.id outcome subject) :
    (refineAll context guard outcome subjects environment).MovesAbove lowest draft
      fun after final => environment.Renews draft.nodes.size after ∧
        AddsGuardNodes guard.id outcome subjects environment draft final := by
  induction subjects generalizing environment draft with
  | nil =>
      exact .pure ⟨.refl _ _, fun _ _ _ _ => .inl, fun _ member => nomatch member⟩
  | cons subject subjects inductionHypothesis =>
      obtain ⟨notLater, distinct⟩ := List.nodup_cons.1 distinct
      obtain ⟨isFirst, restFirst⟩ := List.forall_mem_cons.1 isFirst
      rw [refineAll]
      split
      · rename_i undefined
        exact (inductionHypothesis distinct within restFirst).mono fun after final _ refined =>
          ⟨refined.1, refined.2.skip undefined⟩
      · rename_i definition defined
        intro after final ends
        have ends := addNode_edge_ok ends
        let text := guard.text ++ if outcome then " [true]" else " [false]"
        let node : FlowNode := ⟨.guard guard.id outcome, text, guard.span, some subject⟩
        let between := draft.withNode node [(definition, .refinement guard.id outcome)]
        have move : Draft.Move lowest draft between := .guardNode above within isFirst
        have restFirst' : ∀ other ∈ subjects, ∀ number,
            ¬GuardAt between.nodes number guard.id outcome other := by
          intro other member number isGuard
          rcases Draft.guardAt_withNode.1 isGuard with ⟨-, -, named⟩ | old
          · exact notLater (Option.some.inj named ▸ member)
          · exact restFirst other member number old
        have within' : guard.id < between.guards.size := within
        obtain ⟨moves, renews, adds⟩ :=
          inductionHypothesis distinct within' restFirst' after final ends
        have renewed : environment.Renews draft.nodes.size
            (environment.define subject draft.nodes.size) :=
          (Environment.Renews.refl _ _).define (Nat.le_refl _) subject
        have kept : GuardAt final.nodes draft.nodes.size guard.id outcome subject :=
          moves.guardAt (Draft.guardAt_withNode.2 (.inl ⟨rfl, rfl, rfl⟩))
        exact ⟨.head move moves, renewed.trans renews (Draft.MovesAbove.size_le (.single move)),
          adds.cons defined notLater kept⟩

theorem refine_moves {guard : GuardCondition} {outcome : Bool} (above : lowest ≤ guard.id)
    (within : guard.id < draft.guards.size)
    (isFirst : ∀ number subject, ¬GuardAt draft.nodes number guard.id outcome subject) :
    (refine context guard outcome environment).MovesAbove lowest draft
      fun after final => environment.Renews draft.nodes.size after ∧
        AddsGuardNodes guard.id outcome (guard.subjects outcome) environment draft final :=
  refineAll_moves (Names.nodup_distinct _) above within fun subject _ number =>
    isFirst number subject

/-- A definition where ways meet is one of theirs or new. -/
theorem joinDefinition_moves (live : List Environment) (span : Span) (name : String) :
    (joinDefinition context live span name).Moves draft fun node _ =>
      (∃ environment ∈ live, environment.Defines name node) ∨ draft.nodes.size ≤ node := by
  unfold joinDefinition
  split
  · rename_i definition only
    exact .pure (.inl (mem_incoming.1 (only ▸ List.mem_singleton_self definition)))
  · refine addNode_edges_moves (by simp) (fun source member => ?_)
      (NodeKind.isFed_of_not_sink (by simp) _) (.pure (.inr (Nat.le_refl _)))
    obtain ⟨definition, -, rfl⟩ := List.mem_map.1 member
    exact nofun

theorem joinDefinitions_moves (live : List Environment) (span : Span) (names : List String) :
    (joinDefinitions context live span names).Moves draft fun definitions _ =>
      ∀ name node, definitions.get? name = some node →
        (∃ environment ∈ live, environment.Defines name node) ∨ draft.nodes.size ≤ node := by
  induction names generalizing draft with
  | nil => exact .pure nofun
  | cons name names inductionHypothesis =>
      rw [joinDefinitions]
      refine (joinDefinition_moves live span name).bind fun node between moves isNode => ?_
      refine inductionHypothesis.bind fun definitions final _ areNodes => .pure ?_
      intro other number defined
      rw [StringMap.get?_insert] at defined
      split at defined
      · rename_i same
        rw [same, ← Option.some.inj defined]
        exact isNode
      · exact (areNodes other number defined).imp_right (Nat.le_trans moves.size_le)

/-- Where ways meet that renew an environment, it is renewed. -/
theorem join_moves {size : Nat} {environments : List Environment}
    (renews : ∀ other ∈ environments, environment.Renews size other)
    (atMost : size ≤ draft.nodes.size) (span : Span) :
    (join context environments span).Moves draft fun after _ => environment.Renews size after := by
  unfold join
  split
  · refine .pure ?_
    cases environments with
    | nil => exact nofun
    | cons first rest => exact renews first List.mem_cons_self
  · rename_i single live
    exact .pure (renews single (List.mem_filter.1 (live ▸ List.mem_singleton_self single)).1)
  · rename_i first rest notSingle live
    refine (joinDefinitions_moves (first :: rest) span _).bind fun definitions final _ areNodes =>
      .pure fun name node defined => ?_
    rcases areNodes name node defined with ⟨other, member, defined'⟩ | isNew
    · exact renews other (List.mem_filter.1 (live ▸ member)).1 name node defined'
    · exact .inr (Nat.le_trans atMost isNew)

theorem assign_moves (name : String) (value : Expr) (span : Span) :
    (assign context name value span environment).Moves draft fun after _ =>
      environment.Renews draft.nodes.size after := by
  unfold assign
  refine (lower_moves value).bind fun valueNode between moves _ => ?_
  refine addNode_edge_moves (by simp) (by decide) (NodeKind.isFed_of_not_sink (by simp) _)
    (.pure ?_)
  exact (Environment.Renews.refl _ environment).define moves.size_le name

theorem lowerReturn_moves (value : Expr) (span : Span) :
    (lowerReturn context value span environment).Moves draft fun _ _ => True := by
  unfold lowerReturn
  refine (lower_moves value).bind fun node between _ _ => ?_
  split
  · intro result final ends
    obtain ⟨sink, after, adds, ends⟩ := bind_ok.1 ends
    obtain ⟨-, rfl, rfl⟩ := addNode_ok.1 adds
    rw [addEdge_ok.1 ends]
    have fed : (NodeKind.sinkCall [0]).IsFed [(node, .plain (.argument 0))] := by
      intro positions isSink
      rw [← NodeKind.sinkCall.inj isSink]
      exact ⟨_, List.mem_singleton_self _, 0, List.mem_singleton_self 0, rfl⟩
    have move : Draft.Move between.guards.size between (between.withNode
        ⟨.sinkCall [0], "return " ++ value.text, span, none⟩ [(node, .plain (.argument 0))]) :=
      .node (by simp) (List.forall_mem_singleton.2 (by nofun)) fed
    exact ⟨move.moves, trivial⟩
  · exact .pure trivial

/-- The nodes at the head of a loop hold its variables, or later ones do. -/
theorem addLoopNodes_moves {size : Nat} {entry head : Environment} (span : Span)
    (names : List String) (renews : environment.Renews size head)
    (atMost : size ≤ draft.nodes.size) :
    (addLoopNodes context span entry names head).Moves draft fun result final =>
      final.guards = draft.guards ∧ environment.Renews size result.2 ∧
      (∀ named ∈ result.1, LoopHeadAt final.nodes named.2 ∧
        ∃ node, result.2.Defines named.1 node ∧ named.2 ≤ node) ∧
      ∀ name node, head.Defines name node → node ≤ draft.nodes.size →
        ∃ later, result.2.Defines name later ∧ node ≤ later := by
  induction names generalizing draft head with
  | nil =>
      exact .pure ⟨rfl, renews, List.forall_mem_nil _,
        fun name node defined _ => ⟨node, defined, Nat.le_refl _⟩⟩
  | cons name names inductionHypothesis =>
      rw [addLoopNodes]
      split
      · exact inductionHypothesis renews atMost
      · rename_i definition defined
        refine addNode_edge_moves (by simp) (by decide) (NodeKind.isFed_of_not_sink (by simp) _) ?_
        let node : FlowNode := ⟨.phi, "loop " ++ name, span, some name⟩
        let between := draft.withNode node [(definition, .plain .join)]
        have isHead : LoopHeadAt between.nodes draft.nodes.size :=
          ⟨node, name, Draft.getElem?_withNode_new _ _ _, rfl, rfl, rfl⟩
        have larger : draft.nodes.size ≤ between.nodes.size :=
          Nat.le_of_lt (lt_size_withNode _ _ _)
        refine (inductionHypothesis (renews.define atMost name) (Nat.le_trans atMost larger)).bind
          fun result final moves later => ?_
        obtain ⟨same, renews', heads, kept⟩ := later
        refine .pure ⟨same, renews', fun named member => ?_, fun other number defined' bound => ?_⟩
        · rcases List.mem_cons.1 member with rfl | later
          · exact ⟨moves.loopHeadAt isHead,
              kept name _ (Environment.defines_define_self _ _ _) larger⟩
          · exact heads named later
        · by_cases same : other = name
          · obtain ⟨later, holds, isLater⟩ :=
              kept name _ (Environment.defines_define_self _ _ _) larger
            exact ⟨later, same ▸ holds, Nat.le_trans bound isLater⟩
          · exact kept other number (Environment.defines_define.2 (.inr ⟨same, defined'⟩))
              (Nat.le_trans bound larger)

/-- Edges from later nodes fall back to the head of a loop. -/
theorem addBackEdges_moves {atEnd : Environment} {nodes : List (String × Nat)}
    (heads : ∀ named ∈ nodes, LoopHeadAt draft.nodes named.2)
    (later : ∀ named ∈ nodes, ∀ node, atEnd.Defines named.1 node → named.2 ≤ node) :
    (addBackEdges atEnd nodes).Moves draft fun _ final =>
      final.nodes = draft.nodes ∧ final.guards = draft.guards := by
  induction nodes generalizing draft with
  | nil =>
      rw [addBackEdges]
      exact .pure ⟨rfl, rfl⟩
  | cons named nodes inductionHypothesis =>
      obtain ⟨name, number⟩ := named
      obtain ⟨isHead, heads⟩ := List.forall_mem_cons.1 heads
      obtain ⟨isLater, later⟩ := List.forall_mem_cons.1 later
      rw [addBackEdges]
      split
      · rename_i definition defined
        split
        · exact inductionHypothesis heads later
        · rename_i different
          intro result final ends
          obtain ⟨_, between, added, ends⟩ := bind_ok.1 ends
          rw [addEdge_ok.1 added] at ends
          have falls : number < definition :=
            Nat.lt_of_le_of_ne (isLater definition defined) (Ne.symm different)
          let longer : Draft :=
            { draft with edges := ⟨definition, number, .plain .loopBack⟩ :: draft.edges }
          have heads' : ∀ named ∈ nodes, LoopHeadAt longer.nodes named.2 := heads
          obtain ⟨moves, same⟩ := inductionHypothesis heads' later _ _ ends
          exact ⟨Draft.Moves.trans (Draft.Move.backEdge falls isHead).moves moves, same⟩
      · exact inductionHypothesis heads later

/-- The guard nodes of a guard are for the variables that it says something of and that are
defined in an environment. -/
def HasGuardNodes (draft : Draft) (guard : GuardCondition) (environment : Environment) : Prop :=
  ∀ outcome subject, (∃ number, GuardAt draft.nodes number guard.id outcome subject) ↔
    subject ∈ guard.subjects outcome ∧ ∃ definition, environment.Defines subject definition

/-- Both outcomes of a new guard add its nodes, with changes between that add none for it. -/
theorem hasGuardNodes_of_adds {guard : GuardCondition} {head : Environment}
    {first third final : Draft} (isNew : IsNewGuard draft guard.id)
    (addsTrue : AddsGuardNodes guard.id true (guard.subjects true) head draft first)
    (between : ∀ {number outcome subject}, GuardAt third.nodes number guard.id outcome subject ↔
      GuardAt first.nodes number guard.id outcome subject)
    (addsFalse : AddsGuardNodes guard.id false (guard.subjects false) head third final)
    (moves : third.MovesAbove lowest final) : HasGuardNodes final guard head := by
  intro outcome subject
  constructor
  · rintro ⟨number, isGuard⟩
    rcases addsFalse.only _ _ _ _ isGuard with before | ⟨-, rfl, isSubject, defined⟩
    · obtain ⟨rfl, isSubject, defined⟩ := addsTrue.of_isNew isNew (between.1 before)
      exact ⟨isSubject, defined⟩
    · exact ⟨isSubject, defined⟩
  · rintro ⟨isSubject, definition, defined⟩
    cases outcome with
    | false => exact addsFalse.each subject isSubject definition defined
    | true =>
        obtain ⟨number, isGuard⟩ := addsTrue.each subject isSubject definition defined
        exact ⟨number, moves.guardAt (between.2 isGuard)⟩

/-- The two ways on behind a test, and where they meet. -/
theorem branches_moves {guard : GuardCondition} {span : Span}
    {accepted rejected : Environment → Build Environment}
    (knows : draft.KnowsGuards) (isNew : IsNewGuard draft guard.id)
    (accepted_moves : ∀ {inside : Environment} {draft : Draft}, draft.KnowsGuards →
      (accepted inside).Moves draft fun after _ => inside.Renews draft.nodes.size after)
    (rejected_moves : ∀ {inside : Environment} {draft : Draft}, draft.KnowsGuards →
      (rejected inside).Moves draft fun after _ => inside.Renews draft.nodes.size after) :
    MovesAbove guard.id (do
      let afterAccepted ← accepted (← refine context guard true environment)
      let afterRejected ← rejected (← refine context guard false environment)
      join context [afterAccepted, afterRejected] span) draft fun after _ =>
        environment.Renews draft.nodes.size after := by
  refine (refine_moves (Nat.le_refl _) isNew.within fun number => isNew.isFirst number true).bind
    fun inside first moves ⟨renews, adds⟩ => ?_
  have within := Nat.lt_of_lt_of_le isNew.within moves.guards_le
  have knows := knows.move moves
  have larger := moves.size_le
  refine (accepted_moves knows).bindAbove (Nat.le_of_lt within)
    fun afterAccepted second moves renews' => ?_
  have renewsAccepted := renews.trans renews' larger
  -- the other branch gets its first nodes, as those of the test are all for this one
  have isFirst : ∀ number subject, ¬GuardAt second.nodes number guard.id false subject := by
    intro number subject isGuard
    have isTrue := adds.of_isNew isNew ((moves.guardAt_iff within).1 isGuard)
    exact Bool.false_ne_true isTrue.1
  have within := Nat.lt_of_lt_of_le within moves.guards_le
  have knows := knows.move moves
  have larger := Nat.le_trans larger moves.size_le
  refine (refine_moves (Nat.le_refl _) within isFirst).bind
    fun outside third moves ⟨renews, _⟩ => ?_
  have renews := (Environment.Renews.refl _ environment).trans renews larger
  have within := Nat.lt_of_lt_of_le within moves.guards_le
  have knows := knows.move moves
  have larger := Nat.le_trans larger moves.size_le
  refine (rejected_moves knows).bindAbove (Nat.le_of_lt within)
    fun afterRejected fourth moves renews' => ?_
  have renewsRejected := renews.trans renews' larger
  have eitherRenews : ∀ other ∈ [afterAccepted, afterRejected],
      environment.Renews draft.nodes.size other :=
    List.forall_mem_cons.2 ⟨renewsAccepted, List.forall_mem_singleton.2 renewsRejected⟩
  exact (join_moves eitherRenews (Nat.le_trans larger moves.size_le) span).above
    (Nat.le_trans (Nat.le_of_lt within) moves.guards_le)

/-- The rounds of a loop: its body where the test succeeds, and the way back to the head. -/
theorem rounds_moves {guard : GuardCondition} {head : Environment} {nodes : List (String × Nat)}
    {body : Environment → Build Environment}
    (knows : draft.KnowsGuards) (isNew : IsNewGuard draft guard.id)
    (heads : ∀ named ∈ nodes, LoopHeadAt draft.nodes named.2 ∧
      ∃ node, head.Defines named.1 node ∧ named.2 ≤ node)
    (body_moves : ∀ {inside : Environment} {draft : Draft}, draft.KnowsGuards →
      (body inside).Moves draft fun after _ => inside.Renews draft.nodes.size after) :
    MovesAbove guard.id (do
      let atEnd ← body (← refine context guard true head)
      if atEnd.reachable then addBackEdges atEnd nodes
      refine context guard false head) draft fun after final =>
        head.Renews draft.nodes.size after ∧ HasGuardNodes final guard head := by
  refine (refine_moves (Nat.le_refl _) isNew.within fun number => isNew.isFirst number true).bind
    fun inside first moves ⟨renews, addsTrue⟩ => ?_
  have within' := Nat.lt_of_lt_of_le isNew.within moves.guards_le
  refine (body_moves (knows.move moves)).bindAbove (Nat.le_of_lt within')
    fun atEnd second moves' renews' => ?_
  have exit {third : Draft} (nodesSame : third.nodes = second.nodes)
      (guardsSame : third.guards = second.guards) :
      (refine context guard false head).MovesAbove guard.id third fun after final =>
        head.Renews draft.nodes.size after ∧ HasGuardNodes final guard head := by
    have larger : draft.nodes.size ≤ third.nodes.size :=
      nodesSame ▸ Nat.le_trans moves.size_le moves'.size_le
    have within'' : guard.id < third.guards.size :=
      guardsSame ▸ Nat.lt_of_lt_of_le within' moves'.guards_le
    have between {number : Nat} {outcome : Bool} {subject : String} :
        GuardAt third.nodes number guard.id outcome subject ↔
          GuardAt first.nodes number guard.id outcome subject := by
      rw [nodesSame]
      exact moves'.guardAt_iff within'
    refine (refine_moves (Nat.le_refl _) within'' fun number subject isGuard =>
      Bool.false_ne_true (addsTrue.of_isNew isNew (between.1 isGuard)).1).mono
        fun after final moves'' ⟨renews'', addsFalse⟩ => ⟨?_, ?_⟩
    · exact (Environment.Renews.refl _ head).trans renews'' larger
    · exact hasGuardNodes_of_adds isNew addsTrue between addsFalse moves''
  split
  · refine (addBackEdges_moves (fun named member => ?_) fun named member node defined => ?_).bindAbove
      (Nat.le_of_lt (Nat.lt_of_lt_of_le within' moves'.guards_le)) fun _ third _ same =>
        exit same.1 same.2
    · exact moves'.loopHeadAt (moves.loopHeadAt (heads named member).1)
    · -- what holds the variable now held it at the head, or is younger than all nodes there
      obtain ⟨isHead, held, defined', isLater⟩ := heads named member
      obtain ⟨_, _, present, -⟩ := isHead
      obtain ⟨bound, -⟩ := Array.getElem?_eq_some_iff.1 present
      rcases (renews.trans renews' moves.size_le) named.1 node defined with old | isNew
      · exact Option.some.inj (defined'.symm.trans old) ▸ isLater
      · exact Nat.le_of_lt (Nat.lt_of_lt_of_le bound isNew)
  · exact exit rfl rfl

/-- A step one level deeper renews what it renews there. -/
theorem nested_renews {step : Build Environment} (knows : draft.KnowsGuards)
    (renews : ∀ {draft : Draft}, draft.KnowsGuards →
      step.Moves draft fun after _ => environment.Renews draft.nodes.size after) :
    (nested context step).Moves draft fun after _ => environment.Renews draft.nodes.size after :=
  nested_moves (fun _ _ _ => id) (renews (knows.move Draft.Move.level.moves))

mutual

/-- A statement renews the variables that it writes, and adds nodes for its own guards only. -/
theorem addStmt_moves : (stmt : Stmt) → {environment : Environment} →
    {draft : Draft} → draft.KnowsGuards →
    (addStmt context stmt environment).Moves draft fun after _ =>
      environment.Renews draft.nodes.size after
  | .declare name typeName initial span, environment, draft, knows => by
      unfold addStmt
      refine nested_renews knows fun {first} knows => ?_
      refine (declareType_moves _ _ _).bind fun _ second moves _ => ?_
      cases initial with
      | none => exact .pure ((Environment.Renews.refl _ environment).forget name)
      | some value =>
          exact (assign_moves name value span).mono fun after final _ renews =>
            (Environment.Renews.refl _ environment).trans renews moves.size_le
  | .assign target value span, environment, draft, knows => by
      rw [addStmt]
      refine nested_renews knows fun {first} knows => ?_
      exact assign_moves target value span
  | .evaluate expr _, environment, draft, knows => by
      rw [addStmt]
      refine nested_renews knows fun {first} knows => ?_
      exact (lower_moves expr).bind fun _ second _ _ => .pure (.refl _ _)
  | .branch test accepted rejected span, environment, draft, knows => by
      rw [addStmt]
      refine nested_renews knows fun {first} knows => ?_
      refine (lower_moves test).bindAbove (Nat.le_refl _) fun _ second moves _ => ?_
      have knows := knows.move moves
      refine (addGuard_moves knows test span).bindAbove moves.guards_le
        fun guard third moves' ⟨isGuard, _, isNew⟩ => ?_
      have isId : guard.id = second.guards.size := by rw [isGuard]; rfl
      intro after final ends
      obtain ⟨moves'', renews⟩ := branches_moves (knows.move moves') isNew
        (fun {inside _} knows => addAll_moves accepted knows)
        (fun {inside _} knows => addOption_moves rejected knows) after final
        (by simpa only [bind_assoc] using ends)
      have larger := Nat.le_trans moves.size_le moves'.size_le
      exact ⟨moves''.mono (isId ▸ moves.guards_le),
        (Environment.Renews.refl _ environment).trans renews larger⟩
  | .loop test body span, environment, draft, knows => by
      rw [addStmt]
      refine nested_renews knows fun {first} knows => ?_
      have entered (aliases : AliasTable) :
          environment.Renews first.nodes.size { environment with aliases } := .refl _ environment
      refine (addLoopNodes_moves span (Stmt.assigned body) (entered _) (Nat.le_refl _)).bindAbove
        (Nat.le_refl _) fun result second moves ⟨_, renews, heads, _⟩ => ?_
      obtain ⟨nodes, head⟩ := result
      have knows := knows.move moves
      have atMost := moves.guards_le
      have larger := moves.size_le
      refine (lower_moves test).bindAbove atMost fun _ third moves _ => ?_
      have knows := knows.move moves
      have atMost := Nat.le_trans atMost moves.guards_le
      have larger := Nat.le_trans larger moves.size_le
      refine (addGuard_moves knows test span).bindAbove atMost
        fun guard fourth moves' ⟨isGuard, _, isNew⟩ => ?_
      have isId : guard.id = third.guards.size := by rw [isGuard]; rfl
      have heads' : ∀ named ∈ nodes, LoopHeadAt fourth.nodes named.2 ∧
          ∃ node, head.Defines named.1 node ∧ named.2 ≤ node := fun named member =>
        ⟨moves'.loopHeadAt (moves.loopHeadAt (heads named member).1), (heads named member).2⟩
      intro after final ends
      obtain ⟨moves'', renews', -⟩ := rounds_moves (knows.move moves') isNew heads'
        (fun {inside _} knows => addAll_moves body knows) after final
        (by simpa only [bind_assoc] using ends)
      exact ⟨moves''.mono (isId ▸ atMost), renews.trans renews'
        (Nat.le_trans larger moves'.size_le)⟩
  | .block body, environment, draft, knows => by
      rw [addStmt]
      refine nested_renews knows fun {first} knows => ?_
      exact addAll_moves body knows
  | .attempt body handlers final, environment, draft, knows => by
      rw [addStmt]
      refine nested_renews knows fun {first} knows => ?_
      refine (addAll_moves body knows).bind fun atEnd second moves renews => ?_
      have knows := knows.move moves
      have larger := moves.size_le
      have eitherRenews : ∀ other ∈ [environment, atEnd],
          environment.Renews first.nodes.size other :=
        List.forall_mem_cons.2 ⟨.refl _ _, List.forall_mem_singleton.2 renews⟩
      refine (join_moves eitherRenews larger .zero).bind fun start third moves renewsStart => ?_
      have knows := knows.move moves
      have larger := Nat.le_trans larger moves.size_le
      refine (addHandlers_moves handlers knows).bind
        fun ends fourth moves renewEnds => ?_
      have knows := knows.move moves
      have larger' := Nat.le_trans larger moves.size_le
      have eachRenews : ∀ other ∈ atEnd :: ends, environment.Renews first.nodes.size other :=
        List.forall_mem_cons.2 ⟨renews, fun other member =>
          renewsStart.trans (renewEnds other member) larger⟩
      refine (join_moves eachRenews larger' .zero).bind fun joined fifth moves renewsJoined => ?_
      exact (addOption_moves final (knows.move moves)).mono
        fun after final _ renews => renewsJoined.trans renews (Nat.le_trans larger' moves.size_le)
  | .return value span, environment, draft, knows => by
      rw [addStmt]
      refine nested_renews knows fun {first} knows => ?_
      cases value with
      | none => exact .pure (.refl _ environment)
      | some value =>
          exact (lowerReturn_moves value span).bind fun _ second _ _ =>
            .pure (.refl _ environment)

theorem addAll_moves : (stmts : List Stmt) → {environment : Environment} →
    {draft : Draft} → draft.KnowsGuards →
    (addAll context stmts environment).Moves draft fun after _ =>
      environment.Renews draft.nodes.size after
  | [], environment, draft, knows => by
      rw [addAll]
      exact .pure (.refl _ environment)
  | stmt :: rest, environment, draft, knows => by
      rw [addAll]
      refine (addStmt_moves stmt knows).bind fun next between moves renews => ?_
      exact (addAll_moves rest (knows.move moves)).mono fun after final _ renews' =>
        renews.trans renews' moves.size_le

theorem addOption_moves : (stmts : Option (List Stmt)) →
    {environment : Environment} → {draft : Draft} → draft.KnowsGuards →
    (addOption context stmts environment).Moves draft fun after _ =>
      environment.Renews draft.nodes.size after
  | none, environment, draft, knows => by
      rw [addOption]
      exact .pure (.refl _ environment)
  | some stmts, environment, draft, knows => by
      rw [addOption]
      exact addAll_moves stmts knows

theorem addHandlers_moves : (handlers : List Handler) → {start : Environment} →
    {draft : Draft} → draft.KnowsGuards →
    (addHandlers context start handlers).Moves draft fun ends _ =>
      ∀ atEnd ∈ ends, start.Renews draft.nodes.size atEnd
  | [], start, draft, knows => by
      rw [addHandlers]
      exact .pure fun _ member => nomatch member
  | ⟨parameter, exceptionType, body⟩ :: rest, start, draft, knows => by
      unfold addHandlers
      have continues {inside : Environment} {first : Draft} (moves : draft.Moves first)
          (renews : start.Renews draft.nodes.size inside) : Moves (do
            let atEnd ← addAll context body inside
            let ends ← addHandlers context start rest
            return atEnd :: ends) first fun ends _ =>
              ∀ atEnd ∈ ends, start.Renews draft.nodes.size atEnd := by
        have knows := knows.move moves
        refine (addAll_moves body knows).bind fun atEnd second moves' renews' => ?_
        have larger := Nat.le_trans moves.size_le moves'.size_le
        refine (addHandlers_moves rest (knows.move moves')).bind fun ends final _ renewEnds =>
          .pure fun other member => ?_
        rcases List.mem_cons.1 member with rfl | later
        · exact renews.trans renews' moves.size_le
        · exact (Environment.Renews.refl _ start).trans (renewEnds other later) larger
      cases parameter with
      | none => exact continues (.refl draft) (.refl _ start)
      | some name =>
          refine (declareType_moves _ _ _).bind fun _ between moves _ => ?_
          exact continues moves ((Environment.Renews.refl _ start).forget name)

end

theorem addParameters_moves {parameters : List Parameter} :
    (addParameters context parameters environment).Moves draft fun _ _ => True := by
  induction parameters generalizing environment draft with
  | nil => exact .pure trivial
  | cons parameter parameters inductionHypothesis =>
      have notGuard : ∀ guard outcome, parameterKind context parameter ≠ .guard guard outcome := by
        unfold parameterKind
        split <;> nofun
      have notSink : ∀ positions, parameterKind context parameter ≠ .sinkCall positions := by
        unfold parameterKind
        split <;> nofun
      cases isOld : environment.definitions.contains parameter.name with
      | true =>
          intro after final ends
          exact Bool.noConfusion (isOld.symm.trans (addParameters_ok ends))
      | false =>
          rw [addParameters_cons isOld]
          refine (addNode_moves _ _ _ notGuard notSink).bind fun node first _ _ => ?_
          exact (declareType_moves _ _ _).bind fun _ second _ _ => inductionHypothesis

theorem addProcedure_moves (context : BuildContext) :
    (addProcedure context).Moves .empty fun _ _ => True := by
  unfold addProcedure
  refine addParameters_moves.bind fun start between moves _ => ?_
  have knowsEmpty : Draft.KnowsGuards .empty := by
    rintro number guard outcome subject ⟨node, present, -⟩
    simp [Draft.empty] at present
  exact (addAll_moves context.procedure.body (knowsEmpty.move moves)).mono fun _ _ _ _ => trivial

end Build

namespace FlowGraph

open FlowNode

variable {graph : FlowGraph}

/-- Sinks are the nodes of sink calls. -/
theorem IsWellFormed.mem_sinks (wellFormed : graph.IsWellFormed) {number : Nat} :
    number ∈ graph.sinks ↔ ∃ (node : FlowNode) (positions : List Nat),
      graph.nodes[number]? = some node ∧ node.kind = .sinkCall positions := by
  rw [wellFormed.sinks.mem_iff]
  refine exists_congr fun node => ?_
  rw [exists_and_left]
  refine and_congr_right fun _ => ?_
  unfold FlowNode.isSink
  cases node.kind <;> simp

/-- A checked argument that leads to a sink is one of its arguments. -/
theorem mem_sinkArguments {sink : Nat} {node : FlowNode} {positions : List Nat}
    (present : graph.nodes[sink]? = some node) (isSink : node.kind = .sinkCall positions)
    {edge : Edge} (member : edge ∈ graph.edges) (leads : edge.target = sink) {position : Nat}
    (isChecked : position ∈ positions) (isArgument : edge.label.kind = .argument position) :
    edge.source ∈ graph.sinkArguments sink := by
  unfold sinkArguments
  rw [present, Option.map_some, isSink, Ascending.mem_ofList, List.mem_filterMap]
  refine ⟨edge, List.mem_filter.2 ⟨member, beq_iff_eq.2 leads⟩, ?_⟩
  rw [isArgument]
  exact if_pos (List.contains_iff_mem.2 isChecked)

/-- An edge leads from the one node to the other, which is not at the head of a loop. -/
def Bypasses (graph : FlowGraph) (source target : Nat) : Prop :=
  (∃ edge ∈ graph.edges, edge.source = source ∧ edge.target = target) ∧
    ¬LoopHeadAt graph.nodes target

/-- Ways that pass no head of a loop lead on. -/
theorem lt_of_bypasses
    (forward : ∀ edge ∈ graph.edges, edge.label.kind ≠ .loopBack → edge.source < edge.target)
    (back : ∀ edge ∈ graph.edges, edge.label.kind = .loopBack →
      edge.target < edge.source ∧ LoopHeadAt graph.nodes edge.target)
    {source target : Nat} (way : Relation.TransGen graph.Bypasses source target) :
    source < target := by
  have step {source target : Nat} (bypasses : graph.Bypasses source target) : source < target := by
    obtain ⟨⟨edge, member, rfl, rfl⟩, noHead⟩ := bypasses
    exact forward edge member fun isBack => noHead (back edge member isBack).2
  induction way with
  | single last => exact step last
  | tail _ last inductionHypothesis => exact Nat.lt_trans inductionHypothesis (step last)

/-- What holds of every graph that is built, whatever the statements of its procedure. -/
structure IsOrdered (graph : FlowGraph) : Prop where
  /-- Edges lead on, but for those back to the head of a loop. -/
  forward : ∀ edge ∈ graph.edges, edge.label.kind ≠ .loopBack → edge.source < edge.target
  back : ∀ edge ∈ graph.edges, edge.label.kind = .loopBack →
    edge.target < edge.source ∧ LoopHeadAt graph.nodes edge.target
  /-- No way comes back to a node unless it passes the head of a loop. -/
  cycles : ∀ number, ¬Relation.TransGen graph.Bypasses number number
  sources : graph.sources.Pairwise (· < ·) ∧ ∀ number, number ∈ graph.sources ↔
    ∃ node : FlowNode, graph.nodes[number]? = some node ∧ node.kind = .sourceCall
  sinks : graph.sinks.Pairwise (· < ·) ∧ ∀ number, number ∈ graph.sinks ↔
    ∃ (node : FlowNode) (positions : List Nat), graph.nodes[number]? = some node ∧
      node.kind = .sinkCall positions
  /-- A guard node refines a variable that an outcome of its guard says something of, and takes
  it from a node that holds the variable. -/
  guards : ∀ (number : Nat) (node : FlowNode) (guard : Nat) (outcome : Bool),
    graph.nodes[number]? = some node → node.kind = .guard guard outcome →
      ∃ (condition : GuardCondition) (subject : String) (definition : Nat) (origin : FlowNode),
        graph.guards[guard]? = some condition ∧ subject ∈ condition.subjects outcome ∧
        node.variableName = some subject ∧
        graph.incoming number = [⟨definition, number, .refinement guard outcome⟩] ∧
        graph.nodes[definition]? = some origin ∧ origin.variableName = some subject
  distinct : ∀ number other guard outcome subject,
    GuardAt graph.nodes number guard outcome subject →
      GuardAt graph.nodes other guard outcome subject → number = other
  fed : ∀ sink ∈ graph.sinks, graph.sinkArguments sink ≠ []

/-- Every graph that is built is in order. -/
theorem build_isOrdered {catalog : Catalog} {unitConstants : StringMap String}
    {procedure : Procedure} {graph : FlowGraph}
    (built : build catalog unitConstants procedure = .ok graph) : graph.IsOrdered := by
  have wellFormed := isWellFormed_of_build built
  obtain ⟨environment, draft, ends, rfl⟩ := build_ok.1 built
  obtain ⟨grows, -⟩ := Build.addProcedure_ensures _ environment draft ends
  obtain ⟨moves, -⟩ := Build.addProcedure_moves _ environment draft ends
  have directed := Draft.IsReachable.isDirected grows
  have ordered := Draft.isOrdered_empty.move moves
  refine ⟨directed.forward, ordered.falls, fun number cycle => ?_, ⟨wellFormed.sources.ascending,
    fun _ => wellFormed.mem_sources⟩, ⟨wellFormed.sinks.ascending, fun _ => wellFormed.mem_sinks⟩,
    ?_, ordered.distinct, ?_⟩
  · exact Nat.lt_irrefl number (lt_of_bypasses directed.forward ordered.falls cycle)
  · intro number node guard outcome present isGuard
    obtain ⟨condition, subject, known, named, isSubject⟩ :=
      wellFormed.guard number node guard outcome present isGuard
    obtain ⟨definition, origin, ways, present', named'⟩ :=
      directed.refined number node guard outcome present isGuard
    exact ⟨condition, subject, definition, origin, known, isSubject, named, ways, present',
      named'.trans named⟩
  · intro sink isSink
    obtain ⟨node, positions, present, kind⟩ := wellFormed.mem_sinks.1 isSink
    obtain ⟨edge, member, leads, position, isChecked, isArgument⟩ :=
      ordered.fed sink node positions present kind
    exact List.ne_nil_of_mem (mem_sinkArguments present kind member leads isChecked isArgument)

/-- The graph of the decoding loop is in order: its edge back falls to the head of the loop. -/
theorem build_isOrdered_decodingLoop :
    build DecodingLoop.catalog .empty DecodingLoop.procedure = .ok DecodingLoop.graph ∧
      DecodingLoop.graph.IsOrdered ∧ LoopHeadAt DecodingLoop.graph.nodes 2 := by
  have ordered := build_isOrdered DecodingLoop.build_eq
  have back : (⟨7, 2, .plain .loopBack⟩ : Edge) ∈ DecodingLoop.graph.edges := by decide
  exact ⟨DecodingLoop.build_eq, ordered, (ordered.back _ back rfl).2⟩

end FlowGraph

end ForwardTaint
