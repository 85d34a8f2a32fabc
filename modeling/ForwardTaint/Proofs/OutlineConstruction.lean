import ForwardTaint.Proofs.OutlineBindings

/-!
The construction leaves in the graph what an outline says: one lemma for each of its steps, and from
them by recursion on the statements that every outline stands in the graph that is built.
-/

namespace ForwardTaint

/-- Each name of a list is among its names. -/
theorem Names.mem_distinct {names : List String} {name : String} :
    name ∈ Names.distinct names ↔ name ∈ names := by
  have added : ∀ before : List String,
      name ∈ Names.addAll before names ↔ name ∈ before ∨ name ∈ names := by
    induction names with
    | nil => simp [Names.addAll]
    | cons first names inductionHypothesis =>
        intro before
        have here : name ∈ Names.add before first ↔ name ∈ before ∨ name = first := by
          unfold Names.add
          split
          · rename_i old
            exact ⟨.inl, fun either => either.elim id fun same => same ▸ old⟩
          · rw [List.mem_append, List.mem_singleton]
        have later := inductionHypothesis (Names.add before first)
        unfold Names.addAll at later ⊢
        rw [List.foldl_cons, later, here, or_assoc, List.mem_cons]
  rw [Names.distinct, added]
  simp

namespace Build

variable {context : BuildContext} {environment : Environment} {draft : Draft}
  {graph : FlowGraph} {floor : Nat} {Result : Type}

/-- The construction goes on from a draft and an environment: the draft has the nodes below the floor
and those that the environment names. -/
structure Ready (floor : Nat) (draft : Draft) (environment : Environment) : Prop where
  reachable : draft.IsReachable
  above : floor ≤ draft.nodes.size
  holds : environment.HoldsIn draft

theorem Ready.follow (ready : Ready floor draft environment) {least : Nat} {after : Draft}
    (grows : draft.GrowsAbove least after) {next : Environment} (holds : next.HoldsIn after) :
    Ready floor after next :=
  ⟨ready.reachable.grow grows, Nat.le_trans ready.above grows.size_le, holds⟩

theorem Ready.grow (ready : Ready floor draft environment) {least : Nat} {after : Draft}
    (grows : draft.GrowsAbove least after) : Ready floor after environment :=
  ready.follow grows (ready.holds.grow grows)

/-- A node that is added with one edge has the edge. -/
theorem mem_edges_withNode_single (draft : Draft) (node : FlowNode) (source : Nat)
    (label : EdgeLabel) :
    (⟨source, draft.nodes.size, label⟩ : Edge) ∈ (draft.withNode node [(source, label)]).edges :=
  Draft.mem_edges_withNode.2 (.inl ⟨(source, label), List.mem_singleton_self _, rfl⟩)

/-- Where a test has an outcome, each variable is held by a node that refinements by that outcome
lead to. -/
theorem refineAll_refines (ready : Ready floor draft environment)
    {guard : GuardCondition} {outcome : Bool} {subjects : List String}
    (isSubject : ∀ subject ∈ subjects, subject ∈ guard.subjects outcome)
    (known : draft.guards[guard.id]? = some guard) {after : Environment} {final : Draft}
    (ends : (refineAll context guard outcome subjects environment).run draft = .ok (after, final))
    (isWithin : final.IsWithin floor graph) :
    environment.Refines graph draft.nodes.size guard.id outcome after := by
  induction subjects generalizing environment draft with
  | nil =>
      obtain ⟨rfl, -⟩ := pure_ok.1 ends
      exact ⟨rfl, fun name node defined => ⟨node, defined, .refl⟩,
        fun _ _ _ _ => .of_defines fun _ => id⟩
  | cons subject subjects inductionHypothesis =>
      have restSubjects : ∀ other ∈ subjects, other ∈ guard.subjects outcome :=
        fun other member => isSubject other (List.mem_cons_of_mem _ member)
      rw [refineAll] at ends
      split at ends
      · exact inductionHypothesis ready restSubjects known ends
      · rename_i definition defined
        have ends := addNode_edge_ok ends
        let text := guard.text ++ (if outcome then " [true]" else " [false]")
        let node : FlowNode := ⟨.guard guard.id outcome, text, guard.span, some subject⟩
        let label : EdgeLabel := .refinement guard.id outcome
        have names := ready.holds subject definition defined
        have admits : draft.Admits node [(definition, label)] :=
          ⟨guard, subject, definition, known, isSubject subject List.mem_cons_self, rfl, names, rfl⟩
        have grows : draft.Grows (draft.withNode node [(definition, label)]) :=
          Draft.grows_withNode names.lt (by rintro ⟨⟩) admits
        have present := draft.getElem?_withNode_new node [(definition, label)]
        have names' : (draft.withNode node [(definition, label)]).Names draft.nodes.size subject :=
          ⟨node, present, rfl⟩
        have ready' := ready.follow grows ((ready.holds.grow grows).define names')
        have known' := grows.guard known
        obtain ⟨grows', -⟩ := refineAll_ensures restSubjects known' ready'.holds after final ends
        have isWithin' := isWithin.of_grows grows'
        have refines := inductionHypothesis ready' restSubjects known' ends
        have passes : graph.Passes [(guard.id, outcome)] draft.nodes.size := by
          intro other number outcome' present' kind
          obtain rfl := Option.some.inj ((isWithin'.node present).symm.trans present')
          injection kind with sameGuard sameOutcome
          rw [← sameGuard, ← sameOutcome]
          exact List.mem_singleton_self _
        have hands : graph.Hands [(guard.id, outcome)] definition draft.nodes.size :=
          ⟨passes, _, isWithin'.edge (mem_edges_withNode_single draft node definition label), rfl,
            rfl, .inl rfl⟩
        refine ⟨refines.reachable, fun name number defined' => ?_, ?_⟩
        · by_cases same : name = subject
          · subst same
            obtain rfl := Option.some.inj (defined.symm.trans defined')
            have held := environment.defines_define_self name draft.nodes.size
            obtain ⟨node', defined'', handsOn⟩ := refines.hands name _ held
            exact ⟨node', defined'', .head hands handsOn⟩
          · exact refines.hands name number (Environment.defines_define.2 (.inr ⟨same, defined'⟩))
        · intro name first isFirst written
          have isFirst' := Nat.lt_of_lt_of_le isFirst grows.size_le
          refine .trans (.of_each fun target held => ?_) (refines.traces name first isFirst' written)
          rcases Environment.defines_define.1 held with ⟨rfl, rfl⟩ | ⟨-, held⟩
          · refine .inr (.inr ⟨Nat.ne_of_lt isFirst, fun other step => ?_⟩)
            obtain ⟨edge, member, starts, leads, -⟩ := step
            have isAdded := List.mem_singleton.1
              (isWithin'.of_added ready.reachable ready.above member leads)
            rw [← starts, (Prod.mk.inj isAdded).1]
            exact defined
          · exact .inl held

theorem refine_refines (ready : Ready floor draft environment) {guard : GuardCondition}
    {outcome : Bool} (known : draft.guards[guard.id]? = some guard) {after : Environment}
    {final : Draft}
    (ends : (refine context guard outcome environment).run draft = .ok (after, final))
    (isWithin : final.IsWithin floor graph) :
    environment.Refines graph draft.nodes.size guard.id outcome after :=
  refineAll_refines ready (fun _ => id) known ends isWithin

/-- A variable that is given a value is held by a new node. -/
theorem assign_assigns {name : String} {value : Expr} {span : Span} {after : Environment}
    {final : Draft}
    (ends : (assign context name value span environment).run draft = .ok (after, final))
    (isWithin : final.IsWithin floor graph) : environment.Assigns graph name after := by
  unfold assign at ends
  obtain ⟨valueNode, between, -, ends⟩ := bind_ok.1 ends
  have ends := addNode_edge_ok ends
  obtain ⟨rfl, rfl⟩ := pure_ok.1 ends
  have present := between.getElem?_withNode_new
    ⟨.variableRef, name ++ " = " ++ value.text, span, some name⟩ [(valueNode, .plain .assign)]
  refine ⟨rfl, ⟨between.nodes.size, ?_, isWithin.passes present nofun []⟩, ?_⟩
  · exact environment.defines_define_self name _
  · intro other different
    unfold Environment.define
    simp only [StringMap.get?_insert, if_neg different]

/-- The node that holds a variable where ways meet: the one that holds it on all of them, or a new
one, to which the nodes that hold it lead and no others. -/
def IsJoint (graph : FlowGraph) (size : Nat) (live : List Environment) (name : String)
    (node : Nat) : Prop :=
  (∀ source, source ∈ Environment.sources live name ↔ source = node) ∨
    size ≤ node ∧ graph.Passes [] node ∧ ∀ source label, ⟨source, node, label⟩ ∈ graph.edges ↔
      label = .plain .join ∧ source ∈ Environment.sources live name

theorem IsJoint.mono {size size' : Nat} {live : List Environment} {name : String} {node : Nat}
    (isJoint : IsJoint graph size' live name node) (atMost : size ≤ size') :
    IsJoint graph size live name node := by
  rcases isJoint with same | ⟨isNew, passes, edges⟩
  · exact .inl same
  · exact .inr ⟨Nat.le_trans atMost isNew, passes, edges⟩

theorem joinDefinition_isJoint (reachable : draft.IsReachable) (above : floor ≤ draft.nodes.size)
    {live : List Environment} {span : Span} {name : String} {node : Nat} {final : Draft}
    (ends : (joinDefinition context live span name).run draft = .ok (node, final))
    (isWithin : final.IsWithin floor graph) : IsJoint graph draft.nodes.size live name node := by
  have isSource (source : Nat) : source ∈ Ascending.ofList (live.filterMap fun environment =>
      environment.definitions.get? name) ↔ source ∈ Environment.sources live name :=
    Ascending.mem_ofList
  unfold joinDefinition at ends
  split at ends
  · rename_i definition only
    obtain ⟨rfl, -⟩ := pure_ok.1 ends
    refine .inl fun source => ?_
    rw [← isSource, only, List.mem_singleton]
  · simp only [bind_ok, addNode_ok, addEdges_ok, pure_ok] at ends
    obtain ⟨number, between, ⟨-, rfl, rfl⟩, _, after, rfl, rfl, rfl⟩ := ends
    let joint : FlowNode := ⟨.phi, "join " ++ name, span, some name⟩
    have present := draft.getElem?_withNode_new joint []
    obtain ⟨bound, -⟩ := Array.getElem?_eq_some_iff.1 present
    refine .inr ⟨Nat.le_refl _, isWithin.passes present (by rintro _ _ ⟨⟩) [], fun source label => ?_⟩
    have inFinal := Iff.intro
      (fun member : ⟨source, draft.nodes.size, label⟩ ∈ graph.edges =>
        isWithin.incoming member above bound) isWithin.edge
    have notOld : (⟨source, draft.nodes.size, label⟩ : Edge) ∉ (draft.withNode joint []).edges := by
      rw [Draft.mem_edges_withNode]
      rintro (⟨_, member, -⟩ | member)
      · exact List.not_mem_nil member
      · exact Nat.lt_irrefl _ (reachable.isWellFormed.target_lt _ member)
    rw [inFinal, List.mem_append, or_iff_left notOld]
    simp only [List.map_map, List.mem_reverse, List.mem_map, Function.comp_apply, ← isSource,
      Edge.mk.injEq, true_and]
    constructor
    · rintro ⟨definition, isIncoming, rfl, rfl⟩
      exact ⟨rfl, isIncoming⟩
    · rintro ⟨rfl, isIncoming⟩
      exact ⟨source, isIncoming, rfl, rfl⟩

theorem joinDefinitions_isJoint (reachable : draft.IsReachable)
    (above : floor ≤ draft.nodes.size) {live : List Environment}
    (holds : ∀ environment ∈ live, environment.HoldsIn draft) {span : Span} {names : List String}
    {definitions : StringMap Nat} {final : Draft}
    (ends : (joinDefinitions context live span names).run draft = .ok (definitions, final))
    (isWithin : final.IsWithin floor graph) :
    (∀ name ∈ names, ∃ node, definitions.get? name = some node) ∧
      ∀ name node, definitions.get? name = some node →
        IsJoint graph draft.nodes.size live name node := by
  induction names generalizing draft definitions with
  | nil =>
      obtain ⟨rfl, -⟩ := pure_ok.1 ends
      exact ⟨nofun, nofun⟩
  | cons name names inductionHypothesis =>
      rw [joinDefinitions] at ends
      obtain ⟨node, between, first, ends⟩ := bind_ok.1 ends
      obtain ⟨rest, final', later, ends⟩ := bind_ok.1 ends
      obtain ⟨rfl, rfl⟩ := pure_ok.1 ends
      obtain ⟨grows, -⟩ := joinDefinition_ensures holds span name node between first
      have holds' := fun environment member => (holds environment member).grow grows
      obtain ⟨grows', -⟩ := joinDefinitions_ensures holds' span names rest final' later
      obtain ⟨defined, joints⟩ := inductionHypothesis (reachable.grow grows)
        (Nat.le_trans above grows.size_le) holds' later
      have isJoint := joinDefinition_isJoint reachable above first (isWithin.of_grows grows')
      constructor
      · intro other member
        rw [StringMap.get?_insert]
        split
        · exact ⟨node, rfl⟩
        · rename_i different
          exact defined other ((List.mem_cons.1 member).resolve_left different)
      · intro other number isDefined
        rw [StringMap.get?_insert] at isDefined
        split at isDefined
        · rename_i same
          rw [same, ← Option.some.inj isDefined]
          exact isJoint
        · exact (joints other number isDefined).mono grows.size_le

/-- The construction joins environments where ways meet. -/
theorem join_joins (reachable : draft.IsReachable) (above : floor ≤ draft.nodes.size)
    {environments : List Environment}
    (holds : ∀ environment ∈ environments, environment.HoldsIn draft) {span : Span}
    {after : Environment} {final : Draft}
    (ends : (join context environments span).run draft = .ok (after, final))
    (isWithin : final.IsWithin floor graph) :
    Environment.Joins graph draft.nodes.size environments after := by
  have isLive : ∀ live, environments.filter Environment.reachable = live →
      (!live.isEmpty) = environments.any Environment.reachable := by
    rintro live rfl
    rw [Bool.eq_iff_iff]
    simp
  unfold join at ends
  split at ends
  · rename_i none
    obtain ⟨rfl, -⟩ := pure_ok.1 ends
    have meets : Environment.meeting environments = [environments.headD .entry] := by
      unfold Environment.meeting
      rw [none]
    exact .of_single meets (isLive _ none) rfl rfl
  · rename_i environment only
    obtain ⟨rfl, -⟩ := pure_ok.1 ends
    have meets : Environment.meeting environments = [environment] := by
      unfold Environment.meeting
      rw [only]
    have live : environment.reachable = true :=
      (List.mem_filter.1 (only ▸ List.mem_singleton_self environment)).2
    exact .of_single meets (live.trans (isLive _ only)) rfl rfl
  · rename_i first rest _ several
    obtain ⟨definitions, between, joined, ends⟩ := bind_ok.1 ends
    obtain ⟨rfl, rfl⟩ := pure_ok.1 ends
    have meets : Environment.meeting environments = first :: rest := by
      unfold Environment.meeting
      rw [several]
    have holdsLive : ∀ environment ∈ first :: rest, environment.HoldsIn draft :=
      fun environment member => holds environment (List.mem_filter.1 (several ▸ member)).1
    obtain ⟨defined, joints⟩ := joinDefinitions_isJoint reachable above holdsLive joined isWithin
    refine ⟨isLive _ several, ?_, ?_, ?_⟩
    · intro name some
      rw [meets] at some
      obtain ⟨source, member⟩ := List.exists_mem_of_ne_nil _ some
      obtain ⟨environment, isMet, isDefined⟩ := Environment.mem_sources.1 member
      refine defined name (StringMap.mem_allNames.2 ⟨environment.definitions, ?_, source, isDefined⟩)
      exact List.mem_map_of_mem isMet
    · intro name node isDefined
      rw [meets]
      exact joints name node isDefined
    · intro flag predicate
      rw [meets, get?_foldl_intersect, List.forall_mem_cons]

/-- At the head of a loop each variable that is defined there and written in the body is held by a new
node, to which only what held it before leads so far; all others by the node that held them before. -/
theorem addLoopNodes_heads (reachable : draft.IsReachable) {entry head : Environment}
    (holds : entry.HoldsIn draft) (holdsHead : head.HoldsIn draft) {span : Span}
    {names : List String} {nodes : List (String × Nat)} {after : Environment} {final : Draft}
    (ends : (addLoopNodes context span entry names head).run draft = .ok ((nodes, after), final))
    (isWithin : final.IsWithin floor graph) :
    (∀ name, name ∉ names ∨ entry.definitions.get? name = none →
      after.definitions.get? name = head.definitions.get? name) ∧
    ∀ name ∈ names, ∀ node, entry.Defines name node →
      ∃ joint, (name, joint) ∈ nodes ∧ after.Defines name joint ∧ draft.nodes.size ≤ joint ∧
        graph.Hands [] node joint ∧
        ∀ edge ∈ final.edges, edge.target = joint → edge.source = node := by
  induction names generalizing draft head nodes with
  | nil =>
      obtain ⟨same, -⟩ := pure_ok.1 ends
      obtain ⟨rfl, rfl⟩ := Prod.mk.inj same
      exact ⟨fun _ _ => rfl, nofun⟩
  | cons first names inductionHypothesis =>
      rw [addLoopNodes] at ends
      split at ends
      · rename_i undefined
        obtain ⟨kept, joined⟩ := inductionHypothesis reachable holds holdsHead ends
        constructor
        · rintro name (notWritten | undefined')
          · exact kept name (.inl fun member => notWritten (List.mem_cons_of_mem _ member))
          · exact kept name (.inr undefined')
        · intro name member node defined
          rcases List.mem_cons.1 member with rfl | later
          · exact absurd (defined.symm.trans undefined) (Option.some_ne_none _)
          · exact joined name later node defined
      · rename_i definition defined
        have ends := addNode_edge_ok ends
        let node : FlowNode := ⟨.phi, "loop " ++ first, span, some first⟩
        let label : EdgeLabel := .plain .join
        have bound := (holds first definition defined).lt
        have admits : draft.Admits node [(definition, label)] := Draft.admits_join rfl
        have grows : draft.Grows (draft.withNode node [(definition, label)]) :=
          Draft.grows_withNode bound (by rintro ⟨⟩) admits
        have present := draft.getElem?_withNode_new node [(definition, label)]
        have names' : (draft.withNode node [(definition, label)]).Names draft.nodes.size first :=
          ⟨node, present, rfl⟩
        have holdsHead' := (holdsHead.grow grows).define names'
        obtain ⟨⟨nodes', after'⟩, between, later, ends⟩ := bind_ok.1 ends
        obtain ⟨same, rfl⟩ := pure_ok.1 ends
        obtain ⟨rfl, rfl⟩ := Prod.mk.inj same
        obtain ⟨kept, joined⟩ :=
          inductionHypothesis (reachable.grow grows) (holds.grow grows) holdsHead' later
        obtain ⟨grows', -⟩ :=
          addLoopNodes_ensures (holds.grow grows) holdsHead' span names _ _ later
        have isWithin' := isWithin.of_grows grows'
        have hands : graph.Hands [] definition draft.nodes.size :=
          ⟨isWithin'.passes present (by rintro _ _ ⟨⟩) [], _,
            isWithin'.edge (mem_edges_withNode_single draft node definition label), rfl, rfl,
            .inr (.inl rfl)⟩
        constructor
        · intro name either
          have different : name ≠ first := by
            rintro rfl
            rcases either with notWritten | undefined
            · exact notWritten List.mem_cons_self
            · exact absurd (defined.symm.trans undefined) (Option.some_ne_none _)
          have either' : name ∉ names ∨ entry.definitions.get? name = none :=
            either.imp_left fun notWritten member => notWritten (List.mem_cons_of_mem _ member)
          rw [kept name either']
          unfold Environment.define
          rw [StringMap.get?_insert, if_neg different]
        · intro name member number defined'
          by_cases again : name ∈ names
          · obtain ⟨joint, isNode, defined'', isNew, handed, only⟩ :=
              joined name again number defined'
            exact ⟨joint, List.mem_cons_of_mem _ isNode, defined'',
              Nat.le_trans grows.size_le isNew, handed, only⟩
          · obtain rfl := (List.mem_cons.1 member).resolve_right again
            obtain rfl := Option.some.inj (defined.symm.trans defined')
            refine ⟨draft.nodes.size, List.mem_cons_self, ?_, Nat.le_refl _, hands, ?_⟩
            · exact (kept name (.inl again)).trans (head.defines_define_self name _)
            · intro edge inFinal target
              obtain ⟨isNew, -⟩ := Array.getElem?_eq_some_iff.1 present
              have inDraft := (grows'.edge_iff (Nat.le_refl _) (target ▸ isNew)).1 inFinal
              have isOnly := Draft.mem_sources_of_target reachable.isWellFormed inDraft target
              exact (Prod.mk.inj (List.mem_singleton.1 isOnly)).1

/-- What holds a variable at the end of a loop's body leads back to the head, and nothing else. -/
theorem addBackEdges_edges {atEnd : Environment} {nodes : List (String × Nat)} {result : Unit}
    {final : Draft} (ends : (addBackEdges atEnd nodes).run draft = .ok (result, final)) :
    (∀ edge ∈ draft.edges, edge ∈ final.edges) ∧
    (∀ named ∈ nodes, ∀ node, atEnd.Defines named.1 node →
      node = named.2 ∨ ⟨node, named.2, .plain .loopBack⟩ ∈ final.edges) ∧
    ∀ edge ∈ final.edges, edge ∈ draft.edges ∨
      ∃ named ∈ nodes, edge.target = named.2 ∧ atEnd.Defines named.1 edge.source := by
  induction nodes generalizing draft with
  | nil =>
      obtain ⟨-, rfl⟩ := pure_ok.1 ends
      exact ⟨fun _ => id, nofun, fun _ => .inl⟩
  | cons first nodes inductionHypothesis =>
      obtain ⟨name, number⟩ := first
      have widen {edge : Edge} : (∃ named ∈ nodes, edge.target = named.2 ∧
          atEnd.Defines named.1 edge.source) → ∃ named ∈ (name, number) :: nodes,
          edge.target = named.2 ∧ atEnd.Defines named.1 edge.source :=
        fun ⟨named, member, back⟩ => ⟨named, List.mem_cons_of_mem _ member, back⟩
      rw [addBackEdges] at ends
      split at ends
      · rename_i definition defined
        split at ends
        · rename_i same
          obtain ⟨kept, back, only⟩ := inductionHypothesis ends
          refine ⟨kept, fun named member node defined' => ?_, fun edge member =>
            (only edge member).imp_right widen⟩
          rcases List.mem_cons.1 member with rfl | later
          · exact .inl ((Option.some.inj (defined'.symm.trans defined)).trans same)
          · exact back named later node defined'
        · obtain ⟨_, between, added, ends⟩ := bind_ok.1 ends
          rw [addEdge_ok.1 added] at ends
          obtain ⟨kept, back, only⟩ := inductionHypothesis ends
          refine ⟨fun edge member => kept edge (List.mem_cons_of_mem _ member), ?_, ?_⟩
          · intro named member node defined'
            rcases List.mem_cons.1 member with rfl | later
            · obtain rfl := Option.some.inj (defined'.symm.trans defined)
              exact .inr (kept _ List.mem_cons_self)
            · exact back named later node defined'
          · intro edge member
            rcases only edge member with inBetween | isBack
            · rcases List.mem_cons.1 inBetween with rfl | old
              · exact .inr ⟨_, List.mem_cons_self, rfl, defined⟩
              · exact .inl old
            · exact .inr (widen isBack)
      · rename_i undefined
        obtain ⟨kept, back, only⟩ := inductionHypothesis ends
        refine ⟨kept, fun named member node defined' => ?_, fun edge member =>
          (only edge member).imp_right widen⟩
        rcases List.mem_cons.1 member with rfl | later
        · exact absurd (defined'.symm.trans undefined) (Option.some_ne_none _)
        · exact back named later node defined'

/-- What goes back from the end of a loop's body to the nodes at its head: where control comes to the
end, all that holds one of their names there, and never anything else. -/
structure GoesBack (atEnd : Environment) (nodes : List (String × Nat)) (before after : Draft) :
    Prop where
  back : atEnd.reachable = true → ∀ named ∈ nodes, ∀ node, atEnd.Defines named.1 node →
    node = named.2 ∨ ⟨node, named.2, .plain .loopBack⟩ ∈ after.edges
  only : ∀ edge ∈ after.edges, edge ∈ before.edges ∨
    ∃ named ∈ nodes, edge.target = named.2 ∧ atEnd.Defines named.1 edge.source

/-- Behind the body of a loop edges go back, and the construction goes on. -/
theorem goesBack_of_ends {atEnd : Environment} {nodes : List (String × Nat)}
    (holds : atEnd.HoldsIn draft) (areJoints : ∀ named ∈ nodes, floor ≤ named.2 ∧
      ∃ node, draft.nodes[named.2]? = some node ∧ node.kind = .phi)
    {next : Build Result} {value : Result} {final : Draft}
    (ends : (if atEnd.reachable = true then addBackEdges atEnd nodes >>= fun _ => next
      else next).run draft = .ok (value, final)) :
    ∃ after, draft.GrowsAbove floor after ∧ GoesBack atEnd nodes draft after ∧
      next.run after = .ok (value, final) := by
  split at ends
  · obtain ⟨_, after, adds, ends⟩ := bind_ok.1 ends
    obtain ⟨grows, -⟩ := addBackEdges_ensures holds areJoints _ _ adds
    obtain ⟨-, back, only⟩ := addBackEdges_edges adds
    exact ⟨after, grows, ⟨fun _ => back, only⟩, ends⟩
  · rename_i notReachable
    exact ⟨draft, .refl, ⟨fun isReachable => absurd isReachable notReachable, fun _ => .inl⟩, ends⟩

/-- A loop's head joins what held a variable before the loop and at the end of its body; up to the
edges that go back, the body is within the graph. -/
theorem heads_of_goesBack (ready : Ready floor draft environment) {aliases : AliasTable}
    {span : Span} {names : List String} {nodes : List (String × Nat)} {head atEnd : Environment}
    {first last after : Draft}
    (heads : (addLoopNodes context span environment names
      { environment with aliases := aliases }).run draft = .ok ((nodes, head), first))
    (grows : first.Grows last) (growsBack : last.GrowsAbove draft.nodes.size after)
    (goesBack : GoesBack atEnd nodes last after) (isWithin : after.IsWithin floor graph) :
    last.IsWithin first.nodes.size graph ∧
      Environment.Heads graph draft.nodes.size names environment head atEnd := by
  obtain ⟨growsHeads, -, sameReachable, areJoints⟩ :=
    addLoopNodes_ensures ready.holds (by exact ready.holds) span names _ _ heads
  have isWithinBody : last.IsWithin first.nodes.size graph := by
    refine ⟨fun present => isWithin.node (growsBack.node present),
      fun member => isWithin.edge (growsBack.edge member), fun member isAbove isBelow => ?_⟩
    have above' := Nat.le_trans ready.above (Nat.le_trans growsHeads.size_le isAbove)
    have isBelow' := Nat.lt_of_lt_of_le isBelow growsBack.size_le
    rcases goesBack.only _ (isWithin.incoming member above' isBelow') with
      old | ⟨named, isNamed, same, -⟩
    · exact old
    · obtain ⟨-, node, present, -⟩ := areJoints named isNamed
      obtain ⟨bound, -⟩ := Array.getElem?_eq_some_iff.1 present
      omega
  obtain ⟨kept, joined⟩ := addLoopNodes_heads ready.reachable ready.holds (by exact ready.holds)
    heads (isWithinBody.of_grows grows)
  refine ⟨isWithinBody, sameReachable, kept, fun name member node defined => ?_⟩
  obtain ⟨joint, isNode, defined', isNew, hands, only⟩ := joined name member node defined
  obtain ⟨-, other, present, -, named⟩ := areJoints _ isNode
  obtain ⟨bound, -⟩ := Array.getElem?_eq_some_iff.1 present
  refine ⟨joint, defined', isNew, hands, fun isReachable node' defined'' => ?_, ?_⟩
  · refine (goesBack.back isReachable (name, joint) isNode node' defined'').imp_right fun edge => ?_
    exact ⟨hands.1, _, isWithin.edge edge, rfl, rfl, .inr (.inr rfl)⟩
  · rintro source ⟨edge, member, rfl, target, -⟩
    have bound' := Nat.lt_of_lt_of_le bound (Nat.le_trans grows.size_le growsBack.size_le)
    have inAfter := isWithin.incoming member (Nat.le_trans ready.above (target ▸ isNew))
      (target ▸ bound')
    rcases goesBack.only edge inAfter with old | ⟨⟨name', number⟩, isNamed, same, back⟩
    · have inFirst := (grows.edge_iff (Nat.le_refl _) (target ▸ bound)).1 old
      exact .inl (only edge inFirst target)
    · obtain ⟨-, other', present', -, named'⟩ := areJoints _ isNamed
      obtain rfl : joint = number := target.symm.trans same
      obtain rfl := Option.some.inj (present.symm.trans present')
      obtain rfl : name = name' := Option.some.inj (named.symm.trans named')
      exact .inr back

section Grows

variable {after : Environment} {final : Draft}

theorem outlineStmt_grows (ready : Ready floor draft environment) {stmt : Stmt} {outline : Outline}
    (ends : (outlineStmt context stmt environment).run draft = .ok ((outline, after), final)) :
    draft.Grows final ∧ Ready floor final after := by
  have added : (addStmt context stmt environment).run draft = .ok (after, final) := by
    rw [← outlineStmt_eq, StateT.run_map, ends]
    rfl
  obtain ⟨grows, follows⟩ := addStmt_ensures stmt ready.reachable ready.holds _ _ added
  exact ⟨grows, ready.follow grows follows.holds⟩

theorem outlineAll_grows (ready : Ready floor draft environment) {stmts : List Stmt}
    {course : Course}
    (ends : (outlineAll context stmts environment).run draft = .ok (course, final)) :
    draft.Grows final ∧ Ready floor final course.atEnd := by
  have added : (addAll context stmts environment).run draft = .ok (course.atEnd, final) := by
    rw [← outlineAll_eq, StateT.run_map, ends]
    rfl
  obtain ⟨grows, follows⟩ := addAll_ensures stmts ready.reachable ready.holds _ _ added
  exact ⟨grows, ready.follow grows follows.holds⟩

theorem outlineOption_grows (ready : Ready floor draft environment) {stmts : Option (List Stmt)}
    {course : Course}
    (ends : (outlineOption context stmts environment).run draft = .ok (course, final)) :
    draft.Grows final ∧ Ready floor final course.atEnd := by
  have added : (addOption context stmts environment).run draft = .ok (course.atEnd, final) := by
    rw [← outlineOption_eq, StateT.run_map, ends]
    rfl
  obtain ⟨grows, follows⟩ := addOption_ensures stmts ready.reachable ready.holds _ _ added
  exact ⟨grows, ready.follow grows follows.holds⟩

theorem outlineHandlers_grows (ready : Ready floor draft environment) {handlers : List Handler}
    {courses : List HandlerCourse}
    (ends : (outlineHandlers context environment handlers).run draft = .ok (courses, final)) :
    draft.Grows final ∧ ∀ handler ∈ courses, handler.course.atEnd.HoldsIn final := by
  have added : (addHandlers context environment handlers).run draft =
      .ok (courses.map fun course => course.course.atEnd, final) := by
    rw [← outlineHandlers_eq, StateT.run_map, ends]
    rfl
  obtain ⟨grows, follow⟩ :=
    addHandlers_ensures handlers ready.reachable ready.holds _ _ added
  exact ⟨grows, fun handler member => (follow _ (List.mem_map_of_mem member)).holds⟩

/-- A test is lowered and guarded. -/
theorem test_grows (ready : Ready floor draft environment) {test : Expr} {span : Span}
    {value : Nat} {first : Draft} {guard : GuardCondition}
    (lowers : (lower context environment test).run draft = .ok (value, first))
    (guards : (addGuard context environment test span).run first = .ok (guard, final)) :
    draft.Grows final ∧ Ready floor final environment ∧
      final.guards[guard.id]? = some guard := by
  obtain ⟨grows, -⟩ := lower_ensures test ready.reachable ready.holds _ _ lowers
  obtain ⟨grows', known⟩ := addGuard_ensures environment test span _ _ _ guards
  have both := grows.trans grows'
  exact ⟨both, ready.grow both, known⟩

/-- Where a test has an outcome, the construction goes on. -/
theorem refine_grows (ready : Ready floor draft environment) {guard : GuardCondition}
    {outcome : Bool} (known : draft.guards[guard.id]? = some guard)
    (ends : (refine context guard outcome environment).run draft = .ok (after, final)) :
    draft.Grows final ∧ Ready floor final after := by
  obtain ⟨grows, holds, -⟩ := refine_ensures outcome known ready.holds _ _ ends
  exact ⟨grows, ready.follow grows holds⟩

end Grows

/-- The outline of a step one level deeper stands in the graph as it does there. -/
theorem nested_outline (ready : Ready floor draft environment)
    {step : Build (Outline × Environment)} {outline : Outline} {after : Environment} {final : Draft}
    (ends : (nested context step).run draft = .ok ((outline, after), final))
    (isWithin : final.IsWithin floor graph)
    (stands : ∀ {draft final : Draft}, Ready floor draft environment →
      step.run draft = .ok ((outline, after), final) → final.IsWithin floor graph →
      Outline.Stands graph environment draft.nodes.size outline after final.nodes.size) :
    Outline.Stands graph environment draft.nodes.size outline after final.nodes.size := by
  obtain ⟨-, between, stops, rfl⟩ := nested_ok.1 ends
  have readyInside : Ready floor { draft with depth := draft.depth + 1 } environment :=
    ready.grow Draft.Step.level.grows
  have isWithinInside : between.IsWithin floor graph := isWithin.of_grows Draft.Step.level.grows
  have standsInside := stands readyInside stops isWithinInside
  exact standsInside

mutual

/-- The outline of a statement stands in the graph. -/
theorem outlineStmt_stands : (stmt : Stmt) → {floor : Nat} →
    {environment : Environment} → {draft : Draft} → Ready floor draft environment →
    {outline : Outline} → {after : Environment} → {final : Draft} →
    (outlineStmt context stmt environment).run draft = .ok ((outline, after), final) →
    final.IsWithin floor graph →
    Outline.Stands graph environment draft.nodes.size outline after final.nodes.size
  | .declare name typeName none span, floor, environment, draft, ready, outline, after, final,
      ends, isWithin => by
      rw [outlineStmt] at ends
      refine nested_outline ready ends isWithin fun {draft final} ready ends isWithin => ?_
      simp only [bind_ok, pure_ok, Prod.mk.injEq] at ends
      obtain ⟨_, second, declares, ⟨rfl, rfl⟩, rfl⟩ := ends
      obtain ⟨grows, -⟩ := declareType_ensures name typeName _ _ _ declares
      exact .forget grows.size_le rfl
  | .declare name typeName (some value) span, floor, environment, draft, ready, outline,
      after, final, ends, isWithin => by
      rw [outlineStmt] at ends
      refine nested_outline ready ends isWithin fun {draft final} ready ends isWithin => ?_
      simp only [bind_ok, pure_ok, Prod.mk.injEq] at ends
      obtain ⟨_, second, declares, _, third, assigns, ⟨rfl, rfl⟩, rfl⟩ := ends
      obtain ⟨grows, -⟩ := declareType_ensures name typeName _ _ _ declares
      have ready' := ready.grow grows
      obtain ⟨grows', -⟩ :=
        assign_ensures ready'.reachable ready'.holds name value span _ _ assigns
      exact .assign (grows.trans grows').size_le (assign_assigns assigns isWithin)
  | .assign target value span, floor, environment, draft, ready, outline, after, final, ends,
      isWithin => by
      rw [outlineStmt] at ends
      refine nested_outline ready ends isWithin fun {draft final} ready ends isWithin => ?_
      simp only [bind_ok, pure_ok, Prod.mk.injEq] at ends
      obtain ⟨assigned, second, assigns, ⟨rfl, rfl⟩, rfl⟩ := ends
      obtain ⟨grows, -⟩ :=
        assign_ensures ready.reachable ready.holds target value span _ _ assigns
      exact .assign grows.size_le (assign_assigns assigns isWithin)
  | .evaluate expr _, floor, environment, draft, ready, outline, after, final, ends,
      isWithin => by
      rw [outlineStmt] at ends
      refine nested_outline ready ends isWithin fun {draft final} ready ends isWithin => ?_
      simp only [bind_ok, pure_ok, Prod.mk.injEq] at ends
      obtain ⟨_, second, lowers, ⟨rfl, rfl⟩, rfl⟩ := ends
      obtain ⟨grows, -⟩ := lower_ensures expr ready.reachable ready.holds _ _ lowers
      exact .evaluate grows.size_le rfl
  | .branch test accepted rejected span, floor, environment, draft, ready, outline, after,
      final, ends, isWithin => by
      rw [outlineStmt] at ends
      refine nested_outline ready ends isWithin fun {draft final} ready ends isWithin => ?_
      simp only [bind_ok, pure_ok, Prod.mk.injEq] at ends
      obtain ⟨_, first, lowers, guard, second, guards, inside, third, refines,
        whenTrue, fourth, outlines, outside, fifth, refines', whenFalse, sixth, outlines', joined,
        seventh, joins, ⟨rfl, rfl⟩, rfl⟩ := ends
      obtain ⟨grows₂, ready₂, known⟩ := test_grows ready lowers guards
      obtain ⟨grows₃, ready₃⟩ := refine_grows ready₂ known refines
      obtain ⟨grows₄, ready₄⟩ := outlineAll_grows ready₃ outlines
      have grows₃₄ := grows₃.trans grows₄
      have known' := grows₃₄.guard known
      have ready₄' := ready₂.grow grows₃₄
      obtain ⟨grows₅, ready₅⟩ := refine_grows ready₄' known' refines'
      obtain ⟨grows₆, ready₆⟩ := outlineOption_grows ready₅ outlines'
      have holdsEnds : ∀ atEnd ∈ [whenTrue.atEnd, whenFalse.atEnd], atEnd.HoldsIn sixth :=
        List.forall_mem_cons.2 ⟨ready₄.holds.grow (grows₅.trans grows₆),
          List.forall_mem_singleton.2 ready₆.holds⟩
      obtain ⟨grows₇, -⟩ := join_ensures holdsEnds span _ _ joins
      have isWithin₆ := isWithin.of_grows grows₇
      have isWithin₅ := isWithin₆.of_grows grows₆
      have isWithin₄ := isWithin₅.of_grows grows₅
      have isRefined := refine_refines ready₂ known refines (isWithin₄.of_grows grows₄)
      have isRefined' := refine_refines ready₄' known' refines' isWithin₅
      obtain ⟨rfl, stands⟩ := outlineAll_stands accepted ready₃ outlines isWithin₄
      obtain ⟨rfl, stands'⟩ := outlineOption_stands rejected ready₅ outlines' isWithin₆
      have isJoined := join_joins ready₆.reachable ready₆.above holdsEnds joins isWithin
      exact .branch (grows₂.trans grows₃).size_le (isRefined.mono grows₂.size_le) stands
        grows₅.size_le (isRefined'.mono (grows₂.trans grows₃₄).size_le) stands' grows₇.size_le
        isJoined
  | .loop test body span, floor, environment, draft, ready, outline, after, final, ends,
      isWithin => by
      rw [outlineStmt] at ends
      refine nested_outline ready ends isWithin fun {draft final} ready ends isWithin => ?_
      simp only [bind_ok] at ends
      obtain ⟨⟨nodes, head⟩, first, heads, _, second, lowers, guard, third, guards,
        inside, fourth, refines, round, fifth, outlines, ends⟩ := ends
      obtain ⟨grows₁, holdsHead, -, areJoints⟩ :=
        addLoopNodes_ensures ready.holds (by exact ready.holds) span _ _ _ heads
      -- The nodes of the head get more edges behind the body, so the body stands above them.
      have readyHead : Ready first.nodes.size first head :=
        ⟨ready.reachable.grow grows₁, Nat.le_refl _, holdsHead⟩
      obtain ⟨grows₃, ready₃, known⟩ := test_grows readyHead lowers guards
      obtain ⟨grows₄, ready₄⟩ := refine_grows ready₃ known refines
      obtain ⟨grows₅, ready₅⟩ := outlineAll_grows ready₄ outlines
      have grows₄₅ := grows₄.trans grows₅
      have grows₃₅ := grows₃.trans grows₄₅
      have areJoints₅ : ∀ named ∈ nodes, draft.nodes.size ≤ named.2 ∧
          ∃ node, fifth.nodes[named.2]? = some node ∧ node.kind = .phi := by
        intro named member
        obtain ⟨isNew, node, present, isJoint, -⟩ := areJoints named member
        exact ⟨isNew, node, grows₃₅.node present, isJoint⟩
      obtain ⟨sixth, grows₆, goesBack, ends⟩ := goesBack_of_ends ready₅.holds areJoints₅ ends
      simp only [bind_ok, pure_ok, Prod.mk.injEq] at ends
      obtain ⟨_, _, refines', ⟨rfl, rfl⟩, rfl⟩ := ends
      have known₆ := grows₆.guard (grows₄₅.guard known)
      have ready₆ := ((ready.follow grows₁ holdsHead).grow grows₃₅).grow grows₆
      obtain ⟨grows₇, -⟩ := refine_grows ready₆ known₆ refines'
      obtain ⟨isWithin₅, isHead⟩ :=
        heads_of_goesBack ready heads grows₃₅ grows₆ goesBack (isWithin.of_grows grows₇)
      obtain ⟨rfl, stands⟩ := outlineAll_stands body ready₄ outlines isWithin₅
      have isAssigned (name : String) : name ∈ Stmt.assigned body ↔ name ∈ round.writes := by
        rw [(outlineAll_shows body outlines).writes]
        exact Names.mem_distinct
      have isRefined := refine_refines ready₃ known refines (isWithin₅.of_grows grows₅)
      have isRefined' := refine_refines ready₆ known₆ refines' isWithin
      have atMost := Nat.le_trans (grows₁.trans grows₃₅).size_le grows₆.size_le
      exact .loop (grows₁.trans (grows₃.trans grows₄)).size_le isHead isAssigned
        (isRefined.mono (grows₁.trans grows₃).size_le) stands
        (Nat.le_trans grows₆.size_le grows₇.size_le) (isRefined'.mono atMost)
  | .block body, floor, environment, draft, ready, outline, after, final, ends,
      isWithin => by
      rw [outlineStmt] at ends
      refine nested_outline ready ends isWithin fun {draft final} ready ends isWithin => ?_
      simp only [bind_ok, pure_ok, Prod.mk.injEq] at ends
      obtain ⟨inside, second, outlines, ⟨rfl, rfl⟩, rfl⟩ := ends
      obtain ⟨starts, stands⟩ := outlineAll_stands body ready outlines isWithin
      exact .block starts stands rfl
  | .attempt body handlers last, floor, environment, draft, ready, outline, after, final,
      ends, isWithin => by
      rw [outlineStmt] at ends
      refine nested_outline ready ends isWithin fun {draft final} ready ends isWithin => ?_
      simp only [bind_ok, pure_ok, Prod.mk.injEq] at ends
      obtain ⟨inside, first, outlines, start, second, meets, handled, third,
        outlines', joined, fourth, joins, atLast, fifth, outlines'', ⟨rfl, rfl⟩, rfl⟩ := ends
      obtain ⟨grows₁, ready₁⟩ := outlineAll_grows ready outlines
      have holdsMeeting : ∀ other ∈ [environment, inside.atEnd], other.HoldsIn first :=
        List.forall_mem_cons.2 ⟨ready.holds.grow grows₁, List.forall_mem_singleton.2 ready₁.holds⟩
      obtain ⟨grows₂, holdsStart, -⟩ := join_ensures holdsMeeting .zero _ _ meets
      have ready₂ := ready₁.follow grows₂ holdsStart
      obtain ⟨grows₃, holdsHandled⟩ := outlineHandlers_grows ready₂ outlines'
      have ready₃ := ready₂.grow grows₃
      have holdsEnds : ∀ atEnd ∈ inside.atEnd :: handled.map fun handler => handler.course.atEnd,
          atEnd.HoldsIn third :=
        List.forall_mem_cons.2 ⟨ready₁.holds.grow (grows₂.trans grows₃),
          List.forall_mem_map.2 holdsHandled⟩
      obtain ⟨grows₄, holdsJoined, -⟩ := join_ensures holdsEnds .zero _ _ joins
      have ready₄ := ready₃.follow grows₄ holdsJoined
      obtain ⟨grows₅, -⟩ := outlineOption_grows ready₄ outlines''
      have isWithin₄ := isWithin.of_grows grows₅
      have isWithin₃ := isWithin₄.of_grows grows₄
      have isWithin₂ := isWithin₃.of_grows grows₃
      obtain ⟨starts, stands⟩ :=
        outlineAll_stands body ready outlines (isWithin₂.of_grows grows₂)
      have standHandlers := outlineHandlers_stand handlers ready₂ outlines' isWithin₃
      obtain ⟨rfl, stands'⟩ := outlineOption_stands last ready₄ outlines'' isWithin
      have isMeeting := join_joins ready₁.reachable ready₁.above holdsMeeting meets isWithin₂
      have isJoined := join_joins ready₃.reachable ready₃.above holdsEnds joins isWithin₄
      exact .attempt starts stands isMeeting grows₂.size_le standHandlers isJoined grows₄.size_le
        stands' rfl
  | .return none span, floor, environment, draft, ready, outline, after, final, ends,
      isWithin => by
      rw [outlineStmt] at ends
      refine nested_outline ready ends isWithin fun {draft final} ready ends isWithin => ?_
      simp only [pure_ok, Prod.mk.injEq] at ends
      obtain ⟨⟨rfl, rfl⟩, rfl⟩ := ends
      exact .return (Nat.le_refl _) rfl
  | .return (some value) span, floor, environment, draft, ready, outline, after, final, ends,
      isWithin => by
      rw [outlineStmt] at ends
      refine nested_outline ready ends isWithin fun {draft final} ready ends isWithin => ?_
      simp only [bind_ok, pure_ok, Prod.mk.injEq] at ends
      obtain ⟨_, second, lowers, ⟨rfl, rfl⟩, rfl⟩ := ends
      obtain ⟨grows, -⟩ := lowerReturn_ensures ready.reachable ready.holds value span _ _ lowers
      exact .return grows.size_le rfl

/-- The outline of statements stands in the graph. -/
theorem outlineAll_stands : (stmts : List Stmt) → {floor : Nat} →
    {environment : Environment} → {draft : Draft} → Ready floor draft environment →
    {course : Course} → {final : Draft} →
    (outlineAll context stmts environment).run draft = .ok (course, final) →
    final.IsWithin floor graph →
    course.start = environment ∧ Course.Stands graph draft.nodes.size course final.nodes.size
  | [], floor, environment, draft, ready, course, final, ends, isWithin => by
      simp only [outlineAll, pure_ok] at ends
      obtain ⟨rfl, rfl⟩ := ends
      exact ⟨rfl, .done ready.holds.isBelow (Nat.le_refl _)⟩
  | stmt :: rest, floor, environment, draft, ready, course, final, ends, isWithin => by
      simp only [outlineAll, bind_ok, pure_ok] at ends
      obtain ⟨⟨outline, after⟩, first, outlines, later, second, outlines', rfl, rfl⟩ := ends
      obtain ⟨grows, ready'⟩ := outlineStmt_grows ready outlines
      obtain ⟨grows', -⟩ := outlineAll_grows ready' outlines'
      have stands := outlineStmt_stands stmt ready outlines (isWithin.of_grows grows')
      obtain ⟨rfl, stands'⟩ := outlineAll_stands rest ready' outlines' isWithin
      exact ⟨rfl, .step ready.holds.isBelow stands stands'⟩

theorem outlineOption_stands : (stmts : Option (List Stmt)) → {floor : Nat} →
    {environment : Environment} → {draft : Draft} → Ready floor draft environment →
    {course : Course} → {final : Draft} →
    (outlineOption context stmts environment).run draft = .ok (course, final) →
    final.IsWithin floor graph →
    course.start = environment ∧ Course.Stands graph draft.nodes.size course final.nodes.size
  | none, floor, environment, draft, ready, course, final, ends, isWithin => by
      simp only [outlineOption, pure_ok] at ends
      obtain ⟨rfl, rfl⟩ := ends
      exact ⟨rfl, .done ready.holds.isBelow (Nat.le_refl _)⟩
  | some stmts, floor, environment, draft, ready, course, final, ends, isWithin => by
      rw [outlineOption] at ends
      exact outlineAll_stands stmts ready ends isWithin

/-- The outlines of handlers stand in the graph. -/
theorem outlineHandlers_stand : (handlers : List Handler) → {floor : Nat} →
    {start : Environment} → {draft : Draft} → Ready floor draft start →
    {courses : List HandlerCourse} → {final : Draft} →
    (outlineHandlers context start handlers).run draft = .ok (courses, final) →
    final.IsWithin floor graph →
    HandlersStand graph start draft.nodes.size courses final.nodes.size
  | [], floor, start, draft, ready, courses, final, ends, isWithin => by
      simp only [outlineHandlers, pure_ok] at ends
      obtain ⟨rfl, rfl⟩ := ends
      exact .nil (Nat.le_refl _)
  | ⟨parameter, exceptionType, body⟩ :: rest, floor, start, draft, ready, courses, final,
      ends, isWithin => by
      obtain ⟨course, later, first, second, grows, holdsInside, outlines, outlines', rfl⟩ :
          ∃ course later first second, draft.Grows first ∧
            (start.catching parameter).HoldsIn first ∧
            (outlineAll context body (start.catching parameter)).run first =
              .ok (course, second) ∧
            (outlineHandlers context start rest).run second = .ok (later, final) ∧
            courses = ⟨parameter, course⟩ :: later := by
        cases parameter with
        | none =>
            simp only [outlineHandlers, bind_ok, pure_ok] at ends
            obtain ⟨_, _, ⟨rfl, rfl⟩, course, second, outlines, later, _, outlines', rfl, rfl⟩ := ends
            exact ⟨course, later, _, second, .refl _, ready.holds, outlines, outlines', rfl⟩
        | some name =>
            simp only [outlineHandlers, bind_ok, pure_ok] at ends
            obtain ⟨_, first, declares, _, _, ⟨rfl, rfl⟩, course, second, outlines, later, _,
              outlines', rfl, rfl⟩ := ends
            obtain ⟨grows, -⟩ := declareType_ensures name exceptionType _ _ _ declares
            exact ⟨course, later, _, second, grows, (ready.holds.grow grows).forget name, outlines,
              outlines', rfl⟩
      have readyInside := ready.follow grows holdsInside
      obtain ⟨grows', -⟩ := outlineAll_grows readyInside outlines
      have readyRest := ready.grow (grows.trans grows')
      obtain ⟨grows'', -⟩ := outlineHandlers_grows readyRest outlines'
      obtain ⟨starts, stands⟩ :=
        outlineAll_stands body readyInside outlines (isWithin.of_grows grows'')
      have standRest := outlineHandlers_stand rest readyRest outlines' isWithin
      exact .cons grows.size_le starts stands standRest

end

/-- Parameters are held by nodes of their own, and what was held before is held still. -/
theorem addParameters_defines {parameters : List Parameter} (holds : environment.HoldsIn draft)
    {after : Environment} {final : Draft}
    (ends : (addParameters context parameters environment).run draft = .ok (after, final)) :
    after.reachable = environment.reachable ∧
    (∀ name node, environment.Defines name node → after.Defines name node) ∧
    ∀ parameter ∈ parameters, ∃ number node, after.Defines parameter.name number ∧
      final.nodes[number]? = some node ∧ ∀ guard outcome, node.kind ≠ .guard guard outcome := by
  induction parameters generalizing environment draft with
  | nil =>
      obtain ⟨rfl, rfl⟩ := pure_ok.1 ends
      exact ⟨rfl, fun _ _ => id, nofun⟩
  | cons parameter parameters inductionHypothesis =>
      have isNew := addParameters_ok ends
      have notGuard : ∀ guard outcome, parameterKind context parameter ≠ .guard guard outcome := by
        intro guard outcome
        unfold parameterKind
        split <;> nofun
      rw [addParameters_cons isNew] at ends
      obtain ⟨number, first, added, ends⟩ := bind_ok.1 ends
      obtain ⟨_, second, declares, ends⟩ := bind_ok.1 ends
      obtain ⟨grows, present⟩ := addNode_ensures _ _ _ notGuard _ _ added
      obtain ⟨grows', -⟩ := declareType_ensures _ _ _ _ _ declares
      have names : second.Names number parameter.name := ⟨_, grows'.node present, rfl⟩
      have holds' := ((holds.grow grows).grow grows').define names
      obtain ⟨grows'', -⟩ := addParameters_ensures holds' _ _ ends
      obtain ⟨reachable, kept, defined⟩ := inductionHypothesis holds' ends
      refine ⟨reachable, fun name node old => kept name node ?_, ?_⟩
      · have different : name ≠ parameter.name := by
          rintro rfl
          unfold StringMap.contains at isNew
          rw [show environment.definitions.get? parameter.name = some node from old] at isNew
          exact nomatch isNew
        exact Environment.defines_define.2 (.inr ⟨different, old⟩)
      · intro other member
        rcases List.mem_cons.1 member with rfl | later
        · refine ⟨number, _, kept other.name number ?_, grows''.node (grows'.node present), notGuard⟩
          unfold Environment.Defines Environment.define
          rw [StringMap.get?_insert, if_pos rfl]
        · exact defined other later

end Build

namespace FlowGraph

/-- What holds of the outline beside a graph that is built: it shows the body of the procedure and
stands in the graph, and the nodes of parameters hold them where it starts. -/
structure IsOutlined (graph : FlowGraph) (procedure : Procedure) (course : Course) : Prop where
  shows : course.Shows procedure.body
  stands : ∃ low high, Course.Stands graph low course high
  reachable : course.start.reachable = true
  parameters : ∀ parameter ∈ procedure.parameters,
    ∃ node, course.start.Defines parameter.name node ∧ graph.Passes [] node

theorem isOutlined_of_build {catalog : Catalog} {unitConstants : StringMap String}
    {procedure : Procedure} {graph : FlowGraph}
    (built : build catalog unitConstants procedure = .ok graph) :
    ∃ course, outline catalog unitConstants procedure = .ok (course, graph) ∧
      graph.IsOutlined procedure course := by
  obtain ⟨course, final, outlined, ends, rfl⟩ := outline_of_build built
  unfold Build.outlineProcedure at ends
  obtain ⟨environment, draft, starts, ends⟩ := Build.bind_ok.1 ends
  have holdsEntry := Environment.holdsIn_entry .empty
  obtain ⟨grows, follows⟩ := Build.addParameters_ensures holdsEntry _ _ starts
  obtain ⟨reachable, -, parameters⟩ := Build.addParameters_defines holdsEntry starts
  have ready : Build.Ready 0 draft environment := ⟨grows, Nat.zero_le _, follows.holds⟩
  obtain ⟨grows', -⟩ := Build.outlineAll_grows ready ends
  have isWithin : final.IsWithin 0 (final.graph procedure.name) :=
    ⟨id, id, fun member _ _ => member⟩
  have shows := Build.outlineAll_shows procedure.body ends
  obtain ⟨rfl, stands⟩ := Build.outlineAll_stands procedure.body ready ends isWithin
  refine ⟨course, outlined, shows, ⟨_, _, stands⟩, reachable, fun parameter member => ?_⟩
  obtain ⟨number, node, defined, present, notGuard⟩ := parameters parameter member
  exact ⟨number, defined, (isWithin.of_grows grows').passes present notGuard []⟩

end FlowGraph

end ForwardTaint
