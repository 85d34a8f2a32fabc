import ForwardTaint.FlowGraph.Builder
import ForwardTaint.Proofs.DraftGrowth

/-!
The construction of a flow graph changes drafts by the steps of their growth only, and its
environments name nodes that hold the variables.  So every graph that is built has its edges among
its nodes, no edge to a literal, and guard nodes that belong to its guards.
-/

namespace ForwardTaint

namespace Environment

/-- Every definition is a node that holds the variable. -/
def HoldsIn (environment : Environment) (draft : Draft) : Prop :=
  ∀ name number, environment.definitions.get? name = some number → draft.Names number name

theorem HoldsIn.grow {environment : Environment} {draft after : Draft}
    {floor : Nat} (holds : environment.HoldsIn draft) (grows : draft.GrowsAbove floor after) :
    environment.HoldsIn after :=
  fun name number defined => grows.names (holds name number defined)

theorem holdsIn_entry (draft : Draft) : entry.HoldsIn draft := by
  intro name number defined
  exact nomatch defined

theorem HoldsIn.forget {environment : Environment} {draft : Draft}
    (holds : environment.HoldsIn draft) (name : String) : (environment.forget name).HoldsIn draft := by
  intro other number defined
  unfold Environment.forget at defined
  rw [StringMap.get?_erase] at defined
  split at defined
  · exact nomatch defined
  · exact holds other number defined

theorem HoldsIn.define {environment : Environment} {draft : Draft}
    (holds : environment.HoldsIn draft) {name : String} {number : Nat}
    (names : draft.Names number name) : (environment.define name number).HoldsIn draft := by
  intro other otherNumber defined
  unfold Environment.define at defined
  rw [StringMap.get?_insert] at defined
  split at defined
  · rename_i same
    rw [same, ← Option.some.inj defined]
    exact names
  · exact holds other otherNumber defined

end Environment

/-- The node takes the value of those that lead to it, and refines no variable. -/
def NodeKind.IsPlain (kind : NodeKind) : Prop :=
  kind ≠ .literal ∧ ∀ guard outcome, kind ≠ .guard guard outcome

/-- The edge leads on, and refines no variable. -/
def EdgeKind.IsPlain (kind : EdgeKind) : Prop := kind ≠ .loopBack ∧ kind ≠ .refine

theorem CallRole.isPlain_nodeKind (role : CallRole) : role.nodeKind.IsPlain := by
  cases role <;> exact ⟨nofun, nofun⟩

namespace Draft

/-- Plain nodes may have any plain edges. -/
theorem admits_of_plain {draft : Draft} {node : FlowNode} (plain : node.kind.IsPlain)
    {sources : List (Nat × EdgeKind)} (edges : ∀ source ∈ sources, source.2.IsPlain) :
    draft.Admits node (sources.map fun source => (source.1, .plain source.2)) := by
  obtain ⟨kind, text, span, variableName⟩ := node
  unfold Admits
  cases kind with
  | literal => exact absurd rfl plain.1
  | guard guard outcome => exact absurd rfl (plain.2 guard outcome)
  | _ =>
      intro source member
      obtain ⟨origin, isOrigin, rfl⟩ := List.mem_map.1 member
      exact ⟨(edges origin isOrigin).2, rfl⟩

theorem admits_single {draft : Draft} {node : FlowNode} {source : Nat} {kind : EdgeKind}
    (plain : node.kind.IsPlain) (edge : kind.IsPlain) :
    draft.Admits node [(source, .plain kind)] :=
  @admits_of_plain draft node plain [(source, kind)] (List.forall_mem_singleton.2 edge)

/-- A node at the head of a loop may have the edge from what it joins first. -/
theorem admits_join {draft : Draft} {node : FlowNode} {source : Nat} (isJoint : node.kind = .phi) :
    draft.Admits node [(source, .plain .join)] := by
  refine admits_single ?_ ⟨nofun, nofun⟩
  rw [isJoint]
  exact ⟨nofun, nofun⟩

/-- Nodes that are no guards may have no edges. -/
theorem admits_nil {draft : Draft} {node : FlowNode}
    (notGuard : ∀ guard outcome, node.kind ≠ .guard guard outcome) : draft.Admits node [] := by
  obtain ⟨kind, text, span, variableName⟩ := node
  unfold Admits
  cases kind with
  | literal => rfl
  | guard guard outcome => exact absurd rfl (notGuard guard outcome)
  | _ =>
      intro source member
      exact absurd member List.not_mem_nil

end Draft

namespace Build

variable {context : BuildContext} {environment : Environment} {draft : Draft}
  {Result : Type} {good : Result → Draft → Prop}

/-- A node is added with edges from a list of nodes, and the construction goes on. -/
theorem addNode_edges_ensures {kind : NodeKind} {text : String} {span : Span}
    {variableName : Option String} {sources : List (Nat × EdgeKind)} {next : Nat → Build Result}
    (within : ∀ source ∈ sources, source.1 < draft.nodes.size ∧ source.2.IsPlain)
    (plain : kind.IsPlain)
    (next_ensures : (next draft.nodes.size).Ensures (draft.withNode ⟨kind, text, span, variableName⟩
      (sources.map fun source => (source.1, .plain source.2))) good) :
    Ensures (do
      let node ← addNode context kind text span variableName
      addEdges node sources
      next node) draft good := by
  intro value final ends
  obtain ⟨grows, holds⟩ := next_ensures value final (addNode_edges_ok.1 ends).2
  refine ⟨Draft.Grows.trans (Draft.Step.grows (.node ?_ ?_)) grows, holds⟩
  · intro source member
    obtain ⟨origin, isOrigin, rfl⟩ := List.mem_map.1 member
    exact ⟨(within origin isOrigin).1, (within origin isOrigin).2.1⟩
  · exact Draft.admits_of_plain plain fun source member => (within source member).2

/-- A node is added with one edge, and the construction goes on. -/
theorem addNode_edge_ensures {kind : NodeKind} {text : String} {span : Span}
    {variableName : Option String} {source : Nat} {label : EdgeLabel} {next : Nat → Build Result}
    (within : source < draft.nodes.size) (forward : label.kind ≠ .loopBack)
    (admits : draft.Admits ⟨kind, text, span, variableName⟩ [(source, label)])
    (next_ensures : (next draft.nodes.size).Ensures
      (draft.withNode ⟨kind, text, span, variableName⟩ [(source, label)]) good) :
    Ensures (do
      let node ← addNode context kind text span variableName
      addEdge source node label
      next node) draft good := by
  intro value final ends
  simp only [bind_ok, addNode_ok, addEdge_ok] at ends
  obtain ⟨number, between, ⟨-, rfl, rfl⟩, result, after, rfl, ends⟩ := ends
  obtain ⟨grows, holds⟩ := next_ensures value final ends
  exact ⟨(Draft.grows_withNode within forward admits).trans grows, holds⟩

/-- A node is added without edges. -/
theorem addNode_ensures {kind : NodeKind} (text : String) (span : Span)
    (variableName : Option String) (notGuard : ∀ guard outcome, kind ≠ .guard guard outcome) :
    (addNode context kind text span variableName).Ensures draft fun number final =>
      final.nodes[number]? = some ⟨kind, text, span, variableName⟩ := by
  intro number final ends
  obtain ⟨-, rfl, rfl⟩ := addNode_ok.1 ends
  refine ⟨Draft.Step.grows (.node ?_ (Draft.admits_nil notGuard)), ?_⟩
  · exact fun origin member => absurd member List.not_mem_nil
  · change (draft.withNode _ _).nodes[draft.nodes.size]? = _
    rw [Draft.getElem?_withNode, if_pos rfl]

theorem lt_size_withNode (draft : Draft) (node : FlowNode) (sources : List (Nat × EdgeLabel)) :
    draft.nodes.size < (draft.withNode node sources).nodes.size := by
  rw [Draft.nodes_withNode, Array.size_push]
  exact Nat.lt_succ_self _

/-- The node that a variable is read from stands. -/
theorem readVariable_ensures (reachable : draft.IsReachable) (holds : environment.HoldsIn draft)
    (name : String) :
    (readVariable context environment name).Ensures draft fun number final =>
      number < final.nodes.size := by
  unfold readVariable
  split
  · rename_i node defined
    exact .pure (holds name node defined).lt
  · split
    · refine (addNode_ensures _ _ _ (by nofun)).mono fun number final present => ?_
      exact (Array.getElem?_eq_some_iff.1 present).1
    · intro number final ends
      obtain ⟨read, between, gets, ends⟩ := bind_ok.1 ends
      obtain ⟨rfl, rfl⟩ := get_ok.1 gets
      split at ends
      · rename_i node noted
        obtain ⟨rfl, rfl⟩ := pure_ok.1 ends
        exact ⟨.refl _, (reachable.isWellFormed.undefinedReads name node noted).lt⟩
      · simp only [bind_ok, addNode_ok, modify_ok, pure_ok] at ends
        obtain ⟨node, between, ⟨-, rfl, rfl⟩, noted, after, rfl, rfl, rfl⟩ := ends
        refine ⟨Draft.Grows.trans (Draft.Step.grows (.node ?_ (Draft.admits_nil (by nofun))))
          (Draft.Step.grows (.undefinedRead ?_)), lt_size_withNode draft _ []⟩
        · exact fun origin member => absurd member List.not_mem_nil
        · exact ⟨_, Draft.getElem?_withNode_new _ _ _, rfl⟩

/-- Arguments are numbered nodes. -/
theorem mem_asArguments {index : Nat} {nodes : List Nat} {source : Nat × EdgeKind}
    (member : source ∈ asArguments index nodes) : source.1 ∈ nodes ∧ source.2.IsPlain := by
  induction nodes generalizing index with
  | nil => exact absurd member List.not_mem_nil
  | cons node nodes inductionHypothesis =>
      rcases List.mem_cons.1 member with rfl | later
      · exact ⟨List.mem_cons_self, nofun, nofun⟩
      · obtain ⟨isNode, plain⟩ := inductionHypothesis later
        exact ⟨List.mem_cons_of_mem _ isNode, plain⟩

theorem receiverType_ensures (receiver : Option Expr) (written : Option String) (draft : Draft) :
    (receiverType receiver written).Ensures draft fun _ _ => True := by
  intro value final ends
  unfold receiverType at ends
  obtain ⟨read, between, gets, ends⟩ := bind_ok.1 ends
  obtain ⟨rfl, rfl⟩ := get_ok.1 gets
  obtain ⟨-, rfl⟩ := pure_ok.1 ends
  exact ⟨.refl _, trivial⟩

/-- A node with edges from numbered arguments, whose number is the result. -/
theorem addArguments_ensures {kind : NodeKind} (plain : kind.IsPlain) {text : String} {span : Span}
    {sources : List (Nat × EdgeKind)}
    (within : ∀ source ∈ sources, source.1 < draft.nodes.size ∧ source.2.IsPlain) :
    Ensures (do
      let node ← addNode context kind text span none
      addEdges node sources
      return node) draft fun number final => number < final.nodes.size :=
  addNode_edges_ensures within plain (.pure (lt_size_withNode _ _ _))

theorem addTest_ensures {test : Expr} {parts : List Nat}
    (within : ∀ part ∈ parts, part < draft.nodes.size) :
    (addTest context test parts).Ensures draft fun number final => number < final.nodes.size := by
  refine addArguments_ensures (by exact ⟨nofun, nofun⟩) fun source member => ?_
  obtain ⟨isPart, plain⟩ := mem_asArguments member
  exact ⟨within _ isPart, plain⟩

/-- The node of a part stands, also when its level is given back. -/
theorem nested_stands {step : Build Nat}
    (ensures : ∀ inside, draft.Grows inside →
      step.Ensures inside fun number final => number < final.nodes.size) :
    (nested context step).Ensures draft fun number final => number < final.nodes.size :=
  nested_ensures (fun _ _ _ grows stands => Nat.lt_of_lt_of_le stands grows.size_le) ensures

mutual

/-- The node of an expression stands. -/
theorem lower_ensures : (expr : Expr) → {draft : Draft} → draft.IsReachable →
    environment.HoldsIn draft →
    (lower context environment expr).Ensures draft fun number final =>
      number < final.nodes.size
  | .literal value, draft, reachable, holds => by
      rw [lower]
      refine nested_stands fun between _ => ?_
      refine (addNode_ensures _ _ _ (by nofun)).mono fun number final present => ?_
      exact (Array.getElem?_eq_some_iff.1 present).1
  | .null, draft, reachable, holds => by
      rw [lower]
      refine nested_stands fun between _ => ?_
      refine (addNode_ensures _ _ _ (by nofun)).mono fun number final present => ?_
      exact (Array.getElem?_eq_some_iff.1 present).1
  | .variable name, draft, reachable, holds => by
      rw [lower]
      refine nested_stands fun between grows => ?_
      exact readVariable_ensures (reachable.grow grows) (holds.grow grows) name
  | .call receiver written method arguments span, draft, reachable, holds => by
      rw [lower]
      refine nested_stands fun first grows => ?_
      have reachable := reachable.grow grows
      have holds := holds.grow grows
      refine (lowerOption_ensures receiver reachable holds).bind
        fun receiverNode second grows receiverStands => ?_
      have reachable := reachable.grow grows
      have holds := holds.grow grows
      refine (lowerAll_ensures arguments reachable holds).bind
        fun nodes third grows argumentsStand => ?_
      refine (receiverType_ensures _ _ _).bind fun _ fourth grows' _ => ?_
      refine addArguments_ensures (CallRole.isPlain_nodeKind _) fun source member => ?_
      rcases List.mem_append.1 member with isReceiver | isArgument
      · obtain ⟨number, present, rfl⟩ := List.mem_map.1 isReceiver
        have stands := receiverStands number (Option.mem_toList.1 present)
        exact ⟨Nat.lt_of_lt_of_le stands (grows.trans grows').size_le, nofun, nofun⟩
      · obtain ⟨isNode, plain⟩ := mem_asArguments isArgument
        exact ⟨Nat.lt_of_lt_of_le (argumentsStand _ isNode) grows'.size_le, plain⟩
  | .construct className arguments span, draft, reachable, holds => by
      rw [lower]
      refine nested_stands fun first grows => ?_
      refine (lowerAll_ensures arguments (reachable.grow grows) (holds.grow grows)).bind
        fun nodes second grows argumentsStand => ?_
      refine addArguments_ensures (CallRole.isPlain_nodeKind _) fun source member => ?_
      obtain ⟨isNode, plain⟩ := mem_asArguments member
      exact ⟨argumentsStand _ isNode, plain⟩
  | .concat operands span, draft, reachable, holds => by
      rw [lower]
      refine nested_stands fun first grows => ?_
      refine (lowerOperands_ensures operands 0 false (reachable.grow grows)
        (holds.grow grows)).bind fun nodes second grows operandsStand => ?_
      exact addArguments_ensures (by exact ⟨nofun, nofun⟩) operandsStand
  | .not operand, draft, reachable, holds => by
      rw [lower]
      refine nested_stands fun first grows => ?_
      refine (lower_ensures operand (reachable.grow grows) (holds.grow grows)).bind
        fun node second _ stands => ?_
      refine addTest_ensures fun part member => ?_
      rwa [List.mem_singleton.1 member]
  | .and left right, draft, reachable, holds
  | .or left right, draft, reachable, holds
  | .compare _ left right, draft, reachable, holds => by
      rw [lower]
      refine nested_stands fun first grows => ?_
      have reachable := reachable.grow grows
      have holds := holds.grow grows
      refine (lower_ensures left reachable holds).bind
        fun leftNode second grows leftStands => ?_
      refine (lower_ensures right (reachable.grow grows) (holds.grow grows)).bind
        fun rightNode third grows' rightStands => ?_
      refine addTest_ensures fun part member => ?_
      rcases List.mem_cons.1 member with rfl | isRight
      · exact Nat.lt_of_lt_of_le leftStands grows'.size_le
      · rwa [List.mem_singleton.1 isRight]
  | .cast _ operand, draft, reachable, holds => by
      rw [lower]
      refine nested_stands fun first grows => ?_
      exact lower_ensures operand (reachable.grow grows) (holds.grow grows)

theorem lowerOption_ensures : (expr : Option Expr) → {draft : Draft} →
    draft.IsReachable → environment.HoldsIn draft →
    (lowerOption context environment expr).Ensures draft fun node final =>
      ∀ number, node = some number → number < final.nodes.size
  | none, draft, reachable, holds => by
      rw [lowerOption]
      exact .pure nofun
  | some expr, draft, reachable, holds => by
      rw [lowerOption]
      refine (lower_ensures expr reachable holds).bind fun node between _ stands => .pure ?_
      intro number same
      rwa [← Option.some.inj same]

theorem lowerAll_ensures : (exprs : List Expr) → {draft : Draft} →
    draft.IsReachable → environment.HoldsIn draft →
    (lowerAll context environment exprs).Ensures draft fun nodes final =>
      ∀ node ∈ nodes, node < final.nodes.size
  | [], draft, reachable, holds => by
      rw [lowerAll]
      exact .pure fun node member => absurd member List.not_mem_nil
  | expr :: rest, draft, reachable, holds => by
      rw [lowerAll]
      refine (lower_ensures expr reachable holds).bind fun node between grows stands => ?_
      refine (lowerAll_ensures rest (reachable.grow grows) (holds.grow grows)).bind
        fun nodes final grows' restStands => .pure fun other member => ?_
      rcases List.mem_cons.1 member with rfl | later
      · exact Nat.lt_of_lt_of_le stands grows'.size_le
      · exact restStands other later

theorem lowerOperands_ensures : (operands : List Expr) → (index : Nat) → (inQuery : Bool) →
    {draft : Draft} → draft.IsReachable → environment.HoldsIn draft →
    (lowerOperands context environment index inQuery operands).Ensures draft
      fun sources final => ∀ source ∈ sources, source.1 < final.nodes.size ∧ source.2.IsPlain
  | [], index, inQuery, draft, reachable, holds => by
      rw [lowerOperands]
      exact .pure fun source member => absurd member List.not_mem_nil
  | operand :: rest, index, inQuery, draft, reachable, holds => by
      rw [lowerOperands]
      refine (lower_ensures operand reachable holds).bind fun node between grows stands => ?_
      refine (lowerOperands_ensures rest (index + 1) _ (reachable.grow grows)
        (holds.grow grows)).bind fun sources final grows' restStands => .pure fun other member => ?_
      rcases List.mem_cons.1 member with rfl | later
      · refine ⟨Nat.lt_of_lt_of_le stands grows'.size_le, ?_⟩
        cases inQuery <;> exact ⟨nofun, nofun⟩
      · exact restStands other later

end

/-- A test that was taken apart is the last guard. -/
theorem addGuard_ensures (environment : Environment) (test : Expr) (span : Span) (draft : Draft) :
    (addGuard context environment test span).Ensures draft fun guard final =>
      final.guards[guard.id]? = some guard := by
  intro guard final ends
  simp only [addGuard, bind_ok, get_ok, modify_ok, pure_ok] at ends
  obtain ⟨read, between, ⟨rfl, rfl⟩, result, after, rfl, rfl, rfl⟩ := ends
  refine ⟨Draft.Step.grows (.guard rfl), ?_⟩
  change (draft.guards.push _)[draft.guards.size]? = _
  rw [Array.getElem?_push, if_pos rfl]

theorem refineAll_ensures {guard : GuardCondition} {outcome : Bool} {subjects : List String}
    (within : ∀ subject ∈ subjects, subject ∈ guard.subjects outcome)
    (known : draft.guards[guard.id]? = some guard) (holds : environment.HoldsIn draft) :
    (refineAll context guard outcome subjects environment).Ensures draft fun after final =>
      after.HoldsIn final ∧ after.reachable = environment.reachable := by
  induction subjects generalizing environment draft with
  | nil => exact .pure ⟨holds, rfl⟩
  | cons subject subjects inductionHypothesis =>
      have restWithin : ∀ other ∈ subjects, other ∈ guard.subjects outcome :=
        fun other member => within other (List.mem_cons_of_mem _ member)
      rw [refineAll]
      split
      · exact inductionHypothesis restWithin known holds
      · rename_i definition defined
        have names := holds subject definition defined
        have admits (text : String) : draft.Admits
            ⟨.guard guard.id outcome, text, guard.span, some subject⟩
            [(definition, .refinement guard.id outcome)] :=
          ⟨guard, subject, definition, known, within subject List.mem_cons_self, rfl, names, rfl⟩
        refine addNode_edge_ensures names.lt (by nofun) (admits _) ?_
        have grows := Draft.grows_withNode names.lt (by nofun)
          (admits (guard.text ++ if outcome then " [true]" else " [false]"))
        refine inductionHypothesis restWithin known ((holds.grow grows).define ?_)
        exact ⟨_, Draft.getElem?_withNode_new _ _ _, rfl⟩

theorem refine_ensures {guard : GuardCondition} (outcome : Bool)
    (known : draft.guards[guard.id]? = some guard) (holds : environment.HoldsIn draft) :
    (refine context guard outcome environment).Ensures draft fun after final =>
      after.HoldsIn final ∧ after.reachable = environment.reachable :=
  refineAll_ensures (fun _ => id) known holds

/-- The definitions to join are those of the environments. -/
theorem mem_incoming {live : List Environment} {name : String} {definition : Nat} :
    definition ∈ Ascending.ofList (live.filterMap fun environment =>
        environment.definitions.get? name) ↔
      ∃ environment ∈ live, environment.definitions.get? name = some definition := by
  rw [Ascending.mem_ofList, List.mem_filterMap]

theorem joinDefinition_ensures {live : List Environment}
    (holds : ∀ environment ∈ live, environment.HoldsIn draft) (span : Span) (name : String) :
    (joinDefinition context live span name).Ensures draft fun node final =>
      final.Names node name := by
  have names {definition : Nat} (member : definition ∈ Ascending.ofList
      (live.filterMap fun environment => environment.definitions.get? name)) :
      draft.Names definition name := by
    obtain ⟨environment, isLive, defined⟩ := mem_incoming.1 member
    exact holds environment isLive name definition defined
  unfold joinDefinition
  split
  · rename_i definition only
    exact .pure (names (only ▸ List.mem_singleton_self definition))
  · refine addNode_edges_ensures (fun source member => ?_) (by exact ⟨nofun, nofun⟩) (.pure ?_)
    · obtain ⟨definition, isIncoming, rfl⟩ := List.mem_map.1 member
      exact ⟨(names isIncoming).lt, nofun, nofun⟩
    · exact ⟨_, Draft.getElem?_withNode_new _ _ _, rfl⟩

theorem joinDefinitions_ensures {live : List Environment}
    (holds : ∀ environment ∈ live, environment.HoldsIn draft) (span : Span) (names : List String) :
    (joinDefinitions context live span names).Ensures draft fun definitions final =>
      ∀ name number, definitions.get? name = some number → final.Names number name := by
  induction names generalizing draft with
  | nil => exact .pure nofun
  | cons name names inductionHypothesis =>
      rw [joinDefinitions]
      refine (joinDefinition_ensures holds span name).bind fun node between grows stands => ?_
      refine (inductionHypothesis fun environment member => (holds environment member).grow grows).bind
        fun definitions final grows' restStand => .pure fun other number defined => ?_
      rw [StringMap.get?_insert] at defined
      split at defined
      · rename_i same
        rw [same, ← Option.some.inj defined]
        exact grows'.names stands
      · exact restStand other number defined

theorem join_ensures {environments : List Environment}
    (holds : ∀ environment ∈ environments, environment.HoldsIn draft) (span : Span) :
    (join context environments span).Ensures draft fun after final => after.HoldsIn final ∧
      (after.reachable = true → ∃ environment ∈ environments, environment.reachable = true) := by
  unfold join
  split
  · refine .pure ⟨?_, by nofun⟩
    cases environments with
    | nil => exact Environment.holdsIn_entry draft
    | cons first rest => exact holds first List.mem_cons_self
  · rename_i single live
    obtain ⟨member, isReachable⟩ := List.mem_filter.1 (live ▸ List.mem_singleton_self single)
    exact .pure ⟨holds single member, fun _ => ⟨single, member, isReachable⟩⟩
  · rename_i first rest notSingle live
    have isLive {environment : Environment} (member : environment ∈ first :: rest) :
        environment ∈ environments ∧ environment.reachable = true :=
      List.mem_filter.1 (live ▸ member)
    refine (joinDefinitions_ensures (fun environment member =>
      holds environment (isLive member).1) span _).bind fun definitions final _ stand => .pure ?_
    exact ⟨stand, fun _ => ⟨first, isLive List.mem_cons_self⟩⟩

theorem assign_ensures (reachable : draft.IsReachable) (holds : environment.HoldsIn draft)
    (name : String) (value : Expr) (span : Span) :
    (assign context name value span environment).Ensures draft fun after final =>
      after.HoldsIn final ∧ after.reachable = environment.reachable := by
  unfold assign
  refine (lower_ensures value reachable holds).bind fun valueNode between grows stands => ?_
  have admits (text : String) : between.Admits ⟨.variableRef, text, span, some name⟩
      [(valueNode, .plain .assign)] := Draft.admits_single ⟨nofun, nofun⟩ ⟨nofun, nofun⟩
  refine addNode_edge_ensures stands (by nofun) (admits _) (.pure ⟨?_, rfl⟩)
  have grows' := Draft.grows_withNode stands (by nofun) (admits (name ++ " = " ++ value.text))
  refine ((holds.grow grows).grow grows').define ?_
  exact ⟨_, Draft.getElem?_withNode_new _ _ _, rfl⟩

theorem lowerReturn_ensures (reachable : draft.IsReachable) (holds : environment.HoldsIn draft)
    (value : Expr) (span : Span) :
    (lowerReturn context value span environment).Ensures draft fun _ _ => True := by
  unfold lowerReturn
  refine (lower_ensures value reachable holds).bind fun node between grows stands => ?_
  split
  · intro result final ends
    simp only [bind_ok, addNode_ok, addEdge_ok] at ends
    obtain ⟨sink, after, ⟨-, rfl, rfl⟩, rfl⟩ := ends
    have admits : between.Admits ⟨.sinkCall [0], "return " ++ value.text, span, none⟩
        [(node, .plain (.argument 0))] := Draft.admits_single ⟨nofun, nofun⟩ ⟨nofun, nofun⟩
    exact ⟨Draft.grows_withNode stands (by nofun) admits, trivial⟩
  · exact .pure trivial

theorem addLoopNodes_ensures {entry head : Environment} (holds : entry.HoldsIn draft)
    (holdsHead : head.HoldsIn draft) (span : Span) (names : List String) :
    (addLoopNodes context span entry names head).Ensures draft fun result final =>
      result.2.HoldsIn final ∧ result.2.reachable = head.reachable ∧
        ∀ named ∈ result.1, draft.nodes.size ≤ named.2 ∧
          ∃ node, final.nodes[named.2]? = some node ∧ node.kind = .phi ∧
            node.variableName = some named.1 := by
  induction names generalizing draft head with
  | nil => exact .pure ⟨holdsHead, rfl, fun named member => absurd member List.not_mem_nil⟩
  | cons name names inductionHypothesis =>
      rw [addLoopNodes]
      split
      · exact inductionHypothesis holds holdsHead
      · rename_i definition defined
        have bound := (holds name definition defined).lt
        have admits : draft.Admits ⟨.phi, "loop " ++ name, span, some name⟩
            [(definition, .plain .join)] := Draft.admits_join rfl
        refine addNode_edge_ensures bound (by nofun) admits ?_
        have grows := Draft.grows_withNode bound (by nofun) admits
        have present := draft.getElem?_withNode_new ⟨.phi, "loop " ++ name, span, some name⟩
          [(definition, .plain .join)]
        refine (inductionHypothesis (holds.grow grows)
          ((holdsHead.grow grows).define ⟨_, present, rfl⟩)).bind
          fun result final grows' stands => .pure ⟨stands.1, stands.2.1, fun named member => ?_⟩
        rcases List.mem_cons.1 member with rfl | later
        · exact ⟨Nat.le_refl _, _, grows'.node present, rfl, rfl⟩
        · obtain ⟨isNew, isJoint⟩ := stands.2.2 named later
          exact ⟨Nat.le_trans grows.size_le isNew, isJoint⟩

theorem addBackEdges_ensures {floor : Nat} {atEnd : Environment} {nodes : List (String × Nat)}
    (holds : atEnd.HoldsIn draft) (joints : ∀ named ∈ nodes, floor ≤ named.2 ∧
      ∃ node, draft.nodes[named.2]? = some node ∧ node.kind = .phi) :
    (addBackEdges atEnd nodes).EnsuresAbove floor draft fun _ _ => True := by
  induction nodes generalizing draft with
  | nil =>
      intro result final ends
      obtain ⟨-, rfl⟩ := pure_ok.1 ends
      exact ⟨.refl, trivial⟩
  | cons named nodes inductionHypothesis =>
      obtain ⟨name, number⟩ := named
      have restJoints := fun other member => joints other (List.mem_cons_of_mem _ member)
      rw [addBackEdges]
      split
      · rename_i definition defined
        split
        · exact inductionHypothesis holds restJoints
        · intro result final ends
          obtain ⟨_, between, added, ends⟩ := bind_ok.1 ends
          rw [addEdge_ok.1 added] at ends
          obtain ⟨above, node, present, isJoint⟩ := joints (name, number) List.mem_cons_self
          have grows : draft.GrowsAbove floor
              { draft with edges := ⟨definition, number, .plain .loopBack⟩ :: draft.edges } :=
            .single (.backEdge (holds name definition defined).lt present isJoint above)
          obtain ⟨grows', -⟩ := inductionHypothesis (holds.grow grows) restJoints result final ends
          exact ⟨grows.trans grows', trivial⟩
      · exact inductionHypothesis holds restJoints

/-- The environment names nodes of the draft, and control comes to it only from the start. -/
structure Follows (start after : Environment) (draft : Draft) : Prop where
  holds : after.HoldsIn draft
  isReachable : after.reachable = true → start.reachable = true

theorem Follows.of_holds {start after : Environment} {draft : Draft}
    (holds : after.HoldsIn draft ∧ after.reachable = start.reachable) : Follows start after draft :=
  ⟨holds.1, fun isReachable => holds.2 ▸ isReachable⟩

theorem Follows.grow {start after : Environment} {draft final : Draft}
    (follows : Follows start after draft) (grows : draft.Grows final) : Follows start after final :=
  ⟨follows.holds.grow grows, follows.isReachable⟩

theorem Follows.trans {start middle after : Environment} {draft final : Draft}
    (left : Follows start middle draft) (right : Follows middle after final) :
    Follows start after final :=
  ⟨right.holds, fun isReachable => left.isReachable (right.isReachable isReachable)⟩

theorem join_follows (start : Environment) {environments : List Environment}
    (follows : ∀ environment ∈ environments, Follows start environment draft) (span : Span) :
    (join context environments span).Ensures draft (Follows start) := by
  refine (join_ensures (fun environment member => (follows environment member).holds) span).mono
    fun after final joined => ⟨joined.1, fun isReachable => ?_⟩
  obtain ⟨environment, member, live⟩ := joined.2 isReachable
  exact (follows environment member).isReachable live

/-- What holds of the environment behind a part is left true when its level is given back. -/
theorem nested_follows {step : Build Environment}
    (ensures : ∀ inside, draft.Grows inside → step.Ensures inside (Follows environment)) :
    (nested context step).Ensures draft (Follows environment) :=
  nested_ensures (fun _ _ _ grows follows => follows.grow grows) ensures

mutual

/-- A statement lets drafts grow. -/
theorem addStmt_ensures : (stmt : Stmt) → {environment : Environment} →
    {draft : Draft} → draft.IsReachable → environment.HoldsIn draft →
    (addStmt context stmt environment).Ensures draft (Follows environment)
  | .declare name typeName initial span, environment, draft, reachable, holds => by
      unfold addStmt
      refine nested_follows fun first grows => ?_
      refine (declareType_ensures _ _ _).bind fun _ second grows' _ => ?_
      have grows := grows.trans grows'
      cases initial with
      | none => exact .pure ⟨(holds.grow grows).forget name, id⟩
      | some value =>
          exact (assign_ensures (reachable.grow grows) (holds.grow grows) name value span).mono
            fun _ _ => Follows.of_holds
  | .assign target value span, environment, draft, reachable, holds => by
      rw [addStmt]
      refine nested_follows fun first grows => ?_
      exact (assign_ensures (reachable.grow grows) (holds.grow grows) target value span).mono
        fun _ _ => Follows.of_holds
  | .evaluate expr _, environment, draft, reachable, holds => by
      rw [addStmt]
      refine nested_follows fun first grows => ?_
      refine (lower_ensures expr (reachable.grow grows) (holds.grow grows)).bind
        fun _ second grows' _ => .pure ?_
      exact ⟨holds.grow (grows.trans grows'), id⟩
  | .branch test accepted rejected span, environment, draft, reachable, holds => by
      rw [addStmt]
      refine nested_follows fun first grows => ?_
      have reachable := reachable.grow grows
      have holds := holds.grow grows
      refine (lower_ensures test reachable holds).bind fun _ second grows _ => ?_
      have reachable := reachable.grow grows
      have holds := holds.grow grows
      refine (addGuard_ensures environment test span second).bind fun guard third grows known => ?_
      have reachable := reachable.grow grows
      have holds := holds.grow grows
      refine (refine_ensures true known holds).bind fun whenTrue fourth grows refined => ?_
      have reachable := reachable.grow grows
      have holds := holds.grow grows
      have known := grows.guard known
      refine (addAll_ensures accepted reachable refined.1).bind
        fun afterAccepted fifth grows follows => ?_
      have reachable := reachable.grow grows
      have holds := holds.grow grows
      have known := grows.guard known
      have follows := (Follows.of_holds refined).trans follows
      refine (refine_ensures false known holds).bind fun whenFalse sixth grows refined' => ?_
      have reachable := reachable.grow grows
      have follows := follows.grow grows
      refine (addOption_ensures rejected reachable refined'.1).bind
        fun afterRejected seventh grows follows' => ?_
      refine join_follows environment (fun atEnd member => ?_) span
      rcases List.mem_cons.1 member with rfl | member
      · exact follows.grow grows
      · rw [List.mem_singleton.1 member]
        exact (Follows.of_holds refined').trans follows'
  | .loop test body span, environment, draft, reachable, holds => by
      rw [addStmt]
      refine nested_follows fun first grows => ?_
      have reachable := reachable.grow grows
      have holds := holds.grow grows
      refine (addLoopNodes_ensures holds (by exact holds) span (Stmt.assigned body)).bindAbove
        (Nat.le_refl _) fun result second grows heads => ?_
      obtain ⟨nodes, head⟩ := result
      have reachable := reachable.grow grows
      have above := grows.size_le
      obtain ⟨holdsHead, sameReachable, areJoints⟩ := heads
      refine (lower_ensures test reachable holdsHead).bindAbove above
        fun _ third grows _ => ?_
      have grows' := grows
      refine (addGuard_ensures head test span third).bindAbove
        (Nat.le_trans above grows'.size_le) fun guard fourth grows known => ?_
      have grows' := grows'.trans grows
      refine (refine_ensures true known (holdsHead.grow grows')).bindAbove
        (Nat.le_trans above grows'.size_le) fun inside fifth grows refined => ?_
      have grows' := grows'.trans grows
      have known := grows.guard known
      refine (addAll_ensures body (reachable.grow grows') refined.1).bindAbove
        (Nat.le_trans above grows'.size_le) fun atEnd sixth grows follows => ?_
      have grows' := grows'.trans grows
      have known := grows.guard known
      have exit {between : Draft} (grows : sixth.GrowsAbove first.nodes.size between) :
          (refine context guard false head).EnsuresAbove first.nodes.size between
            (Follows environment) := by
        have holdsHead := (holdsHead.grow grows').grow grows
        refine ((refine_ensures false (grows.guard known) holdsHead).mono
          fun after final refined => ⟨refined.1, fun isReachable => ?_⟩).above
          (Nat.le_trans (Nat.le_trans above grows'.size_le) grows.size_le)
        rwa [refined.2, sameReachable] at isReachable
      split
      · have areJoints' : ∀ named ∈ nodes, first.nodes.size ≤ named.2 ∧
            ∃ node, sixth.nodes[named.2]? = some node ∧ node.kind = .phi := by
          intro named member
          obtain ⟨isNew, node, present, isJoint, -⟩ := areJoints named member
          exact ⟨isNew, node, grows'.node present, isJoint⟩
        exact (addBackEdges_ensures follows.holds areJoints').bind fun _ between grows _ => exit grows
      · exact exit .refl
  | .block body, environment, draft, reachable, holds => by
      rw [addStmt]
      refine nested_follows fun first grows => ?_
      exact addAll_ensures body (reachable.grow grows) (holds.grow grows)
  | .attempt body handlers final, environment, draft, reachable, holds => by
      rw [addStmt]
      refine nested_follows fun first grows => ?_
      have reachable := reachable.grow grows
      have holds := holds.grow grows
      refine (addAll_ensures body reachable holds).bind
        fun atEnd second grows follows => ?_
      have reachable := reachable.grow grows
      have holds := holds.grow grows
      refine (join_follows environment (fun other member => ?_) .zero).bind
        fun start third grows followsStart => ?_
      · rcases List.mem_cons.1 member with rfl | member
        · exact ⟨holds, id⟩
        · rw [List.mem_singleton.1 member]
          exact follows
      have reachable := reachable.grow grows
      have follows := follows.grow grows
      refine (addHandlers_ensures handlers reachable followsStart.holds).bind
        fun ends fourth grows followEnds => ?_
      have reachable := reachable.grow grows
      refine (join_follows environment (fun other member => ?_) .zero).bind
        fun joined fifth grows followsJoined => ?_
      · rcases List.mem_cons.1 member with rfl | member
        · exact follows.grow grows
        · exact (followsStart.grow grows).trans (followEnds other member)
      have reachable := reachable.grow grows
      exact (addOption_ensures final reachable followsJoined.holds).mono
        fun after final' followsFinal => followsJoined.trans followsFinal
  | .return value span, environment, draft, reachable, holds => by
      rw [addStmt]
      refine nested_follows fun first grows => ?_
      have holds := holds.grow grows
      cases value with
      | none => exact .pure ⟨holds, by nofun⟩
      | some value =>
          refine (lowerReturn_ensures (reachable.grow grows) holds value span).bind
            fun _ second grows _ => .pure ⟨holds.grow grows, by nofun⟩

theorem addAll_ensures : (stmts : List Stmt) → {environment : Environment} →
    {draft : Draft} → draft.IsReachable → environment.HoldsIn draft →
    (addAll context stmts environment).Ensures draft (Follows environment)
  | [], environment, draft, reachable, holds => by
      rw [addAll]
      exact .pure ⟨holds, id⟩
  | stmt :: rest, environment, draft, reachable, holds => by
      rw [addAll]
      refine (addStmt_ensures stmt reachable holds).bind fun next between grows follows => ?_
      exact (addAll_ensures rest (reachable.grow grows) follows.holds).mono
        fun after final followsRest => follows.trans followsRest

theorem addOption_ensures : (stmts : Option (List Stmt)) →
    {environment : Environment} → {draft : Draft} → draft.IsReachable →
    environment.HoldsIn draft →
    (addOption context stmts environment).Ensures draft (Follows environment)
  | none, environment, draft, reachable, holds => by
      rw [addOption]
      exact .pure ⟨holds, id⟩
  | some stmts, environment, draft, reachable, holds => by
      rw [addOption]
      exact addAll_ensures stmts reachable holds

theorem addHandlers_ensures : (handlers : List Handler) →
    {start : Environment} → {draft : Draft} → draft.IsReachable → start.HoldsIn draft →
    (addHandlers context start handlers).Ensures draft fun ends final =>
      ∀ atEnd ∈ ends, Follows start atEnd final
  | [], start, draft, reachable, holds => by
      rw [addHandlers]
      exact .pure fun atEnd member => absurd member List.not_mem_nil
  | ⟨parameter, exceptionType, body⟩ :: rest, start, draft, reachable, holds => by
      unfold addHandlers
      have continues {inside : Environment} {first : Draft} (grows : draft.Grows first)
          (followsInside : Follows start inside first) : Ensures (do
            let atEnd ← addAll context body inside
            let ends ← addHandlers context start rest
            return atEnd :: ends) first fun ends final =>
              ∀ atEnd ∈ ends, Follows start atEnd final := by
        have reachable := reachable.grow grows
        have holds := holds.grow grows
        refine (addAll_ensures body reachable followsInside.holds).bind
          fun atEnd second grows follows => ?_
        refine (addHandlers_ensures rest (reachable.grow grows) (holds.grow grows)).bind
          fun ends final grows' followEnds => .pure fun other member => ?_
        rcases List.mem_cons.1 member with rfl | later
        · exact (followsInside.trans follows).grow grows'
        · exact followEnds other later
      cases parameter with
      | none =>
          have enters : (pure start : Build Environment).Ensures draft (Follows start) :=
            .pure ⟨holds, id⟩
          exact enters.bind fun inside first grows follows => continues grows follows
      | some name =>
          refine (declareType_ensures _ _ _).bind fun _ between grows _ => ?_
          have enters : (pure (start.forget name) : Build Environment).Ensures between
              (Follows start) := .pure ⟨(holds.grow grows).forget name, id⟩
          exact enters.bind fun inside first grows' follows => continues (grows.trans grows') follows

end

/-- The kind of node of a parameter. -/
def parameterKind (context : BuildContext) (parameter : Parameter) : NodeKind :=
  if context.catalog.isHandlerSource context.procedure parameter then .sourceCall else .variableRef

/-- A parameter with a new name gets a node. -/
theorem addParameters_cons {parameter : Parameter} {rest : List Parameter}
    (isNew : environment.definitions.contains parameter.name = false) :
    addParameters context (parameter :: rest) environment = (do
      let node ← addNode context (parameterKind context parameter)
        (parameter.typeName ++ " " ++ parameter.name) context.procedure.span (some parameter.name)
      declareType parameter.name (some parameter.typeName)
      addParameters context rest (environment.define parameter.name node)) := by
  rw [addParameters, isNew, if_neg Bool.false_ne_true]
  rfl

/-- A parameter must have a new name. -/
theorem addParameters_ok {parameter : Parameter} {rest : List Parameter} {after : Environment}
    {final : Draft}
    (ends : (addParameters context (parameter :: rest) environment).run draft = .ok (after, final)) :
    environment.definitions.contains parameter.name = false := by
  rw [Bool.eq_false_iff]
  intro isOld
  rw [addParameters, isOld, if_pos rfl] at ends
  exact nomatch ends

theorem addParameters_ensures {parameters : List Parameter} (holds : environment.HoldsIn draft) :
    (addParameters context parameters environment).Ensures draft (Follows environment) := by
  induction parameters generalizing environment draft with
  | nil => exact .pure ⟨holds, id⟩
  | cons parameter parameters inductionHypothesis =>
      intro after final ends
      rw [addParameters_cons (addParameters_ok ends)] at ends
      have notGuard : ∀ guard outcome, parameterKind context parameter ≠ .guard guard outcome := by
        intro guard outcome
        unfold parameterKind
        split <;> nofun
      refine Ensures.bind (addNode_ensures _ _ _ notGuard) (fun node first grows present => ?_)
        after final ends
      refine (declareType_ensures _ _ _).bind fun _ second grows' _ => ?_
      have grows := grows.trans grows'
      have names : second.Names node parameter.name := ⟨_, grows'.node present, rfl⟩
      refine (inductionHypothesis ((holds.grow grows).define names)).mono fun after final follows => ?_
      exact ⟨follows.holds, follows.isReachable⟩

theorem addProcedure_ensures (context : BuildContext) :
    (addProcedure context).Ensures .empty (Follows .entry) := by
  unfold addProcedure
  refine (addParameters_ensures (Environment.holdsIn_entry _)).bind
    fun start between grows follows => ?_
  exact (addAll_ensures context.procedure.body grows follows.holds).mono
    fun after final followsBody => follows.trans followsBody

end Build

namespace FlowGraph

/-- What holds of every graph that is built: edges stay among the nodes, no edge leads to a literal,
guard nodes belong to guards, and the sources and the sinks are listed in order. -/
structure IsWellFormed (graph : FlowGraph) : Prop where
  source_lt : ∀ edge ∈ graph.edges, edge.source < graph.nodes.size
  target_lt : ∀ edge ∈ graph.edges, edge.target < graph.nodes.size
  literal : ∀ edge ∈ graph.edges, ∀ node : FlowNode, graph.nodes[edge.target]? = some node →
    node.kind ≠ .literal
  guard : ∀ (number : Nat) (node : FlowNode) (guard : Nat) (outcome : Bool),
    graph.nodes[number]? = some node → node.kind = .guard guard outcome →
      ∃ (condition : GuardCondition) (subject : String), graph.guards[guard]? = some condition ∧
        node.variableName = some subject ∧ subject ∈ condition.subjects outcome
  sources : FlowNode.NumbersWhere graph.nodes FlowNode.isSource graph.sources
  sinks : FlowNode.NumbersWhere graph.nodes FlowNode.isSink graph.sinks

theorem build_ok {catalog : Catalog} {unitConstants : StringMap String} {procedure : Procedure}
    {graph : FlowGraph} :
    build catalog unitConstants procedure = .ok graph ↔
      ∃ environment draft,
        (Build.addProcedure ⟨catalog, unitConstants, procedure⟩).run .empty =
          .ok (environment, draft) ∧
        graph = draft.graph procedure.name := by
  unfold build
  split
  · rename_i environment draft ends
    constructor
    · intro built
      exact ⟨environment, draft, ends, (Except.ok.inj built).symm⟩
    · rintro ⟨environment', draft', ends', rfl⟩
      obtain ⟨rfl, rfl⟩ := Prod.mk.inj (Except.ok.inj (ends.symm.trans ends'))
      rfl
  · rename_i failure ends
    constructor
    · intro built
      exact nomatch built
    · rintro ⟨environment', draft', ends', rfl⟩
      exact nomatch ends.symm.trans ends'

theorem isWellFormed_of_build {catalog : Catalog} {unitConstants : StringMap String}
    {procedure : Procedure} {graph : FlowGraph}
    (built : build catalog unitConstants procedure = .ok graph) : graph.IsWellFormed := by
  obtain ⟨environment, draft, ends, rfl⟩ := build_ok.1 built
  obtain ⟨grows, -⟩ := Build.addProcedure_ensures _ environment draft ends
  have wellFormed := Draft.IsReachable.isWellFormed grows
  exact ⟨wellFormed.source_lt, wellFormed.target_lt, wellFormed.literal, wellFormed.guard,
    wellFormed.sources, wellFormed.sinks⟩

end FlowGraph

deriving instance DecidableEq for FlowGraph

/-! A procedure that decodes a request parameter until no escape is left, and forwards to it. -/

namespace DecodingLoop

def catalog : Catalog :=
  ⟨⟨catalogVersion, .standard, []⟩, [⟨.exactly "getParameter", none, .source⟩,
    ⟨.exactly "decode", none, .sanitizer .decode⟩, ⟨.exactly "forward", none, .sink [0]⟩]⟩

def procedure : Procedure :=
  { Procedure.named "serve" with
    body := [
      .declare "path" none (some (.localCall "getParameter" [])) .zero,
      .loop (.methodCall (.variable "path") "contains" [.literal "%"])
        [.assign "path" (.localCall "decode" [.variable "path"]) .zero] .zero,
      .evaluate (.localCall "forward" [.variable "path"]) .zero] }

def guard : GuardCondition where
  id := 0
  text := "path.contains(\"%\")"
  span := .zero
  onTrue := [⟨"path", .contains, .literal "%", false⟩]
  onFalse := [⟨"path", .contains, .literal "%", true⟩]
  opaqueSubjects := []
  flagName := none

def graph : FlowGraph where
  procedureName := "serve"
  nodes := #[
    ⟨.sourceCall, "getParameter()", .zero, none⟩,
    ⟨.variableRef, "path = getParameter()", .zero, some "path"⟩,
    ⟨.phi, "loop path", .zero, some "path"⟩,
    ⟨.literal, "%", .zero, none⟩,
    ⟨.call, "path.contains(\"%\")", .zero, none⟩,
    ⟨.guard 0 true, "path.contains(\"%\") [true]", .zero, some "path"⟩,
    ⟨.sanitizerCall .decode, "decode(path)", .zero, none⟩,
    ⟨.variableRef, "path = decode(path)", .zero, some "path"⟩,
    ⟨.guard 0 false, "path.contains(\"%\") [false]", .zero, some "path"⟩,
    ⟨.sinkCall [0], "forward(path)", .zero, none⟩]
  edges := [
    ⟨8, 9, .plain (.argument 0)⟩, ⟨2, 8, .refinement 0 false⟩, ⟨7, 2, .plain .loopBack⟩,
    ⟨6, 7, .plain .assign⟩, ⟨5, 6, .plain (.argument 0)⟩, ⟨2, 5, .refinement 0 true⟩,
    ⟨3, 4, .plain (.argument 0)⟩, ⟨2, 4, .plain .receiver⟩, ⟨1, 2, .plain .join⟩,
    ⟨0, 1, .plain .assign⟩]
  guards := #[guard]
  sources := [0]
  sinks := [9]

theorem build_eq : FlowGraph.build catalog .empty procedure = .ok graph := by
  have built : (FlowGraph.build catalog .empty procedure).toOption = some graph := by
    decide +kernel
  cases found : FlowGraph.build catalog .empty procedure with
  | error failure =>
      rw [found] at built
      exact nomatch built
  | ok other =>
      rw [found] at built
      rw [show other = graph from Option.some.inj built]

end DecodingLoop

end ForwardTaint
