import ForwardTaint.Proofs.AliasTables
import ForwardTaint.Proofs.Outlines
import ForwardTaint.Proofs.Reachability

/-!
What the construction leaves in the graph for each statement of an outline: which node holds each
variable behind the statement, and which edges lead there.  Every node that an edge of a refinement,
a join or a loop leads to holds the same variable as the node that the edge comes from.
-/

namespace ForwardTaint

namespace FlowGraph

variable {graph : FlowGraph}

/-- The node is no guard, or one for an outcome that a test had. -/
def Passes (graph : FlowGraph) (tests : List (Nat × Bool)) (number : Nat) : Prop :=
  ∀ node guard outcome, graph.nodes[number]? = some node → node.kind = .guard guard outcome →
    (guard, outcome) ∈ tests

/-- A refinement, a join or a loop hands the value of a variable on to a node that passes. -/
def Hands (graph : FlowGraph) (tests : List (Nat × Bool)) (source target : Nat) : Prop :=
  graph.Passes tests target ∧ ∃ edge ∈ graph.edges, edge.source = source ∧ edge.target = target ∧
    (edge.label.kind = .refine ∨ edge.label.kind = .join ∨ edge.label.kind = .loopBack)

/-- Any number of hands pass the value of a variable on. -/
def HandsOn (graph : FlowGraph) (tests : List (Nat × Bool)) : Nat → Nat → Prop :=
  Relation.ReflTransGen (graph.Hands tests)

theorem Passes.mono {tests more : List (Nat × Bool)} {number : Nat}
    (passes : graph.Passes tests number) (within : tests ⊆ more) : graph.Passes more number :=
  fun node guard outcome present kind => within (passes node guard outcome present kind)

/-- Every node passes when the test that it guards had its outcome. -/
theorem exists_passes (graph : FlowGraph) (number : Nat) : ∃ tests, graph.Passes tests number := by
  by_cases isGuard : ∃ node guard outcome, graph.nodes[number]? = some node ∧
      node.kind = .guard guard outcome
  · obtain ⟨node, guard, outcome, present, kind⟩ := isGuard
    refine ⟨[(guard, outcome)], fun other guard' outcome' present' kind' => ?_⟩
    obtain rfl := Option.some.inj (present.symm.trans present')
    obtain ⟨rfl, rfl⟩ := NodeKind.guard.inj (kind.symm.trans kind')
    exact List.mem_singleton_self _
  · exact ⟨[], fun node guard outcome present kind =>
      absurd ⟨node, guard, outcome, present, kind⟩ isGuard⟩

theorem HandsOn.mono {tests more : List (Nat × Bool)} {source target : Nat}
    (hands : graph.HandsOn tests source target) (within : tests ⊆ more) :
    graph.HandsOn more source target :=
  Relation.ReflTransGen.mono (fun _ _ step => ⟨step.1.mono within, step.2⟩) _ _ hands

/-- Taint follows the value of a variable. -/
theorem HandsOn.taintPath {tests : List (Nat × Bool)} {source target : Nat}
    (hands : graph.HandsOn tests source target) : graph.TaintPath source target := by
  refine Relation.ReflTransGen.mono (fun _ _ step => ?_) _ _ hands
  obtain ⟨-, edge, member, starts, ends, kind⟩ := step
  refine ⟨edge, member, starts, ends, ?_⟩
  unfold EdgeLabel.carriesTaint
  rcases kind with kind | kind | kind <;> rw [kind] <;> rfl

/-- Taint goes from the first node to the target in so many steps. -/
def TaintWalk (graph : FlowGraph) (first : Nat) : Nat → Nat → Prop
  | 0, target => target = first
  | steps + 1, target => ∃ other, graph.TaintWalk first steps other ∧ graph.TaintStep other target

theorem taintPath_iff_taintWalk {first target : Nat} :
    graph.TaintPath first target ↔ ∃ steps, graph.TaintWalk first steps target := by
  constructor
  · intro path
    induction path with
    | refl => exact ⟨0, rfl⟩
    | tail _ step inductionHypothesis =>
        obtain ⟨steps, walk⟩ := inductionHypothesis
        exact ⟨steps + 1, _, walk, step⟩
  · rintro ⟨steps, walk⟩
    induction steps generalizing target with
    | zero => exact walk ▸ .refl
    | succ steps inductionHypothesis =>
        obtain ⟨other, walk, step⟩ := walk
        exact (inductionHypothesis walk).tail step

end FlowGraph

/-- The graph has what the draft has, and to nodes of the draft from a number on it has no other
edges. -/
structure Draft.IsWithin (draft : Draft) (floor : Nat) (graph : FlowGraph) : Prop where
  node : ∀ {number : Nat} {node : FlowNode}, draft.nodes[number]? = some node →
    graph.nodes[number]? = some node
  edge : ∀ {edge : Edge}, edge ∈ draft.edges → edge ∈ graph.edges
  incoming : ∀ {edge : Edge}, edge ∈ graph.edges → floor ≤ edge.target →
    edge.target < draft.nodes.size → edge ∈ draft.edges

namespace Draft

variable {graph : FlowGraph} {draft : Draft} {floor : Nat}

theorem IsWithin.of_grows {later : Draft} (within : later.IsWithin floor graph)
    (grows : draft.Grows later) : draft.IsWithin floor graph where
  node present := within.node (grows.node present)
  edge member := within.edge (grows.edge member)
  incoming member above below := by
    have inLater := within.incoming member above (Nat.lt_of_lt_of_le below grows.size_le)
    exact (grows.edge_iff (Nat.le_refl _) below).1 inLater

/-- The edges to a new node are those it was added with. -/
theorem mem_sources_of_target (wellFormed : draft.IsWellFormed) {node : FlowNode}
    {sources : List (Nat × EdgeLabel)} {edge : Edge}
    (member : edge ∈ (draft.withNode node sources).edges)
    (target : edge.target = draft.nodes.size) : (edge.source, edge.label) ∈ sources := by
  rcases mem_edges_withNode.1 member with ⟨source, isSource, rfl⟩ | old
  · exact isSource
  · exact absurd target (Nat.ne_of_lt (wellFormed.target_lt edge old))

/-- A node that was added with edges has only them. -/
theorem IsWithin.of_added {node : FlowNode} {sources : List (Nat × EdgeLabel)}
    (within : (draft.withNode node sources).IsWithin floor graph) (reachable : draft.IsReachable)
    (above : floor ≤ draft.nodes.size) {edge : Edge} (member : edge ∈ graph.edges)
    (target : edge.target = draft.nodes.size) : (edge.source, edge.label) ∈ sources := by
  have bound : edge.target < (draft.withNode node sources).nodes.size := by
    rw [target, nodes_withNode, Array.size_push]
    omega
  have inDraft := within.incoming member (target ▸ above) bound
  exact mem_sources_of_target reachable.isWellFormed inDraft target

/-- A node that is no guard passes without tests. -/
theorem IsWithin.passes (within : draft.IsWithin floor graph) {number : Nat} {node : FlowNode}
    (present : draft.nodes[number]? = some node)
    (notGuard : ∀ guard outcome, node.kind ≠ .guard guard outcome)
    (tests : List (Nat × Bool)) : graph.Passes tests number := by
  intro other guard outcome present' kind
  obtain rfl := Option.some.inj ((within.node present).symm.trans present')
  exact absurd kind (notGuard guard outcome)

end Draft

namespace Environment

/-- The node that holds a variable. -/
def Defines (environment : Environment) (name : String) (node : Nat) : Prop :=
  environment.definitions.get? name = some node

/-- All nodes that hold variables are among the first ones. -/
def IsBelow (environment : Environment) (size : Nat) : Prop :=
  ∀ name node, environment.Defines name node → node < size

theorem defines_define {environment : Environment} {name other : String} {number node : Nat} :
    (environment.define name number).Defines other node ↔
      other = name ∧ node = number ∨ other ≠ name ∧ environment.Defines other node := by
  unfold Defines define
  rw [StringMap.get?_insert]
  by_cases same : other = name
  · simp [same, eq_comm]
  · simp [same]

theorem defines_define_self (environment : Environment) (name : String) (number : Nat) :
    (environment.define name number).Defines name number := defines_define.2 (.inl ⟨rfl, rfl⟩)

theorem HoldsIn.isBelow {environment : Environment} {draft : Draft}
    (holds : environment.HoldsIn draft) : environment.IsBelow draft.nodes.size :=
  fun name node defined => (holds name node defined).lt

/-- Those of the environments that control comes from; where it comes from none, the first. -/
def meeting (environments : List Environment) : List Environment :=
  match environments.filter Environment.reachable with
  | [] => [environments.headD .entry]
  | live => live

/-- The environment where a handler starts. -/
def catching (environment : Environment) : Option String → Environment
  | some name => environment.forget name
  | none => environment

/-- A handler starts with the variables of the environment but the one of what it catches. -/
theorem defines_catching {environment : Environment} {parameter : Option String} {name : String}
    {node : Nat} :
    (environment.catching parameter).Defines name node ↔
      parameter ≠ some name ∧ environment.Defines name node := by
  cases parameter with
  | none => exact ⟨fun defined => ⟨nofun, defined⟩, And.right⟩
  | some caught =>
      unfold catching forget Defines
      simp only [StringMap.get?_erase]
      split
      · rename_i same
        simp [same]
      · rename_i different
        simp [Ne.symm different]

/-- A handler starts with the flags that hold no test of the variable of what it catches, and are
not that variable. -/
theorem aliases_catching {environment : Environment} {parameter : Option String} {flag : String}
    {predicate : Expr} :
    (environment.catching parameter).aliases.get? flag = some predicate ↔
      (∀ caught, parameter = some caught → flag ≠ caught ∧ caught ∉ predicate.variableNames) ∧
        environment.aliases.get? flag = some predicate := by
  cases parameter with
  | none => exact ⟨fun bound => ⟨nofun, bound⟩, And.right⟩
  | some caught =>
      unfold catching forget
      rw [AliasTable.get?_invalidate, and_comm]
      simp only [Option.some.injEq, forall_eq']

/-- Taint goes from a node to the one that holds the variable. -/
def Receives (environment : Environment) (graph : FlowGraph) (first : Nat) (name : String) : Prop :=
  ∃ node, environment.Defines name node ∧ graph.TaintPath first node

/-- However taint comes to the node that holds a variable in the second environment, it went through
the one that holds it in the first environment, in no more steps, or through a node where the variable
was written. -/
def Traces (graph : FlowGraph) (first : Nat) (name : String) (written : Nat → Prop)
    (before after : Environment) : Prop :=
  ∀ steps target, after.Defines name target → graph.TaintWalk first steps target →
    (∃ source fewer, before.Defines name source ∧ fewer ≤ steps ∧
      graph.TaintWalk first fewer source ∧ graph.TaintPath source target) ∨
    ∃ source, written source ∧ graph.TaintPath first source ∧ graph.TaintPath source target

namespace Traces

variable {graph : FlowGraph} {first : Nat} {name : String} {written : Nat → Prop}
  {before middle after : Environment}

theorem trans (left : Traces graph first name written before middle)
    (right : Traces graph first name written middle after) :
    Traces graph first name written before after := by
  intro steps target defined walk
  rcases right steps target defined walk with ⟨source, fewer, defined', atMost, walk', path⟩ | isWritten
  · rcases left fewer source defined' walk' with
      ⟨origin, fewest, isOrigin, atMost', walk'', path'⟩ | ⟨origin, isWritten, before, path'⟩
    · exact .inl ⟨origin, fewest, isOrigin, Nat.le_trans atMost' atMost, walk'', path'.trans path⟩
    · exact .inr ⟨origin, isWritten, before, path'.trans path⟩
  · exact .inr isWritten

/-- The node that holds the variable held it before, or was written, or is a new one that only such
nodes lead to. -/
theorem of_each (each : ∀ target, after.Defines name target → before.Defines name target ∨
      written target ∨ first ≠ target ∧ ∀ other, graph.TaintStep other target →
        before.Defines name other) : Traces graph first name written before after := by
  intro steps target defined walk
  rcases each target defined with old | isWritten | ⟨isNew, only⟩
  · exact .inl ⟨target, steps, old, Nat.le_refl _, walk, .refl⟩
  · exact .inr ⟨target, isWritten, FlowGraph.taintPath_iff_taintWalk.2 ⟨steps, walk⟩, .refl⟩
  · cases steps with
    | zero => exact absurd walk.symm isNew
    | succ steps =>
        obtain ⟨other, walk, step⟩ := walk
        exact .inl ⟨other, steps, only other step, Nat.le_succ _, walk, .single step⟩

theorem of_defines (same : ∀ target, after.Defines name target → before.Defines name target) :
    Traces graph first name written before after :=
  of_each fun target defined => .inl (same target defined)

/-- What comes to a variable came to it before, or through a node where it was written. -/
theorem receives (traces : Traces graph first name written before after)
    (received : after.Receives graph first name) :
    before.Receives graph first name ∨
      ∃ source, written source ∧ graph.TaintPath first source ∧ after.Receives graph source name := by
  obtain ⟨target, defined, path⟩ := received
  obtain ⟨steps, walk⟩ := FlowGraph.taintPath_iff_taintWalk.1 path
  rcases traces steps target defined walk with
    ⟨source, fewer, isSource, -, walk', -⟩ | ⟨source, isWritten, path, path'⟩
  · exact .inl ⟨source, isSource, FlowGraph.taintPath_iff_taintWalk.2 ⟨fewer, walk'⟩⟩
  · exact .inr ⟨source, isWritten, path, target, defined, path'⟩

end Traces

/-- The second environment is the first one where a test has the outcome. -/
structure Refines (graph : FlowGraph) (size guard : Nat) (outcome : Bool)
    (before after : Environment) : Prop where
  reachable : after.reachable = before.reachable
  hands : ∀ name node, before.Defines name node →
    ∃ node', after.Defines name node' ∧ graph.HandsOn [(guard, outcome)] node node'
  traces : ∀ name, ∀ first < size, ∀ written, Traces graph first name written before after

theorem Refines.mono {graph : FlowGraph} {size size' guard : Nat} {outcome : Bool}
    {before after : Environment} (refines : Refines graph size' guard outcome before after)
    (atMost : size ≤ size') : Refines graph size guard outcome before after where
  reachable := refines.reachable
  hands := refines.hands
  traces name first isFirst := refines.traces name first (Nat.lt_of_lt_of_le isFirst atMost)

/-- The second environment is the first one after a variable was given a value. -/
structure Assigns (graph : FlowGraph) (name : String) (before after : Environment) : Prop where
  reachable : after.reachable = before.reachable
  node : ∃ node, after.Defines name node ∧ graph.Passes [] node
  others : ∀ other, other ≠ name → after.definitions.get? other = before.definitions.get? other

/-- The nodes that hold a variable in one of the environments. -/
def sources (environments : List Environment) (name : String) : List Nat :=
  environments.filterMap fun environment => environment.definitions.get? name

theorem mem_sources {environments : List Environment} {name : String} {source : Nat} :
    source ∈ sources environments name ↔
      ∃ environment ∈ environments, environment.Defines name source := by
  rw [sources, List.mem_filterMap]
  rfl

/-- The last environment stands where control comes from the others: a variable is held by the node
that holds it in all of them, or by a new one that joins them. -/
structure Joins (graph : FlowGraph) (size : Nat) (environments : List Environment)
    (after : Environment) : Prop where
  reachable : after.reachable = environments.any Environment.reachable
  defined : ∀ name, sources (meeting environments) name ≠ [] → ∃ node, after.Defines name node
  node : ∀ name node, after.Defines name node →
    (∀ source, source ∈ sources (meeting environments) name ↔ source = node) ∨
    size ≤ node ∧ graph.Passes [] node ∧ ∀ source label, ⟨source, node, label⟩ ∈ graph.edges ↔
      label = .plain .join ∧ source ∈ sources (meeting environments) name
  aliases : ∀ flag predicate, after.aliases.get? flag = some predicate ↔
    ∀ environment ∈ meeting environments, environment.aliases.get? flag = some predicate

/-- Where control comes from one environment only, its variables and flags go on. -/
theorem Joins.of_single {graph : FlowGraph} {size : Nat} {environments : List Environment}
    {environment after : Environment} (meets : meeting environments = [environment])
    (reachable : after.reachable = environments.any Environment.reachable)
    (definitions : after.definitions = environment.definitions)
    (aliases : after.aliases = environment.aliases) : Joins graph size environments after := by
  have isSource (name : String) (source : Nat) :
      source ∈ sources (meeting environments) name ↔ after.Defines name source := by
    rw [meets, mem_sources, Defines, definitions]
    simp [Defines]
  refine ⟨reachable, fun name some => ?_, fun name node defined => .inl fun source => ?_, ?_⟩
  · obtain ⟨source, member⟩ := List.exists_mem_of_ne_nil _ some
    exact ⟨source, (isSource name source).1 member⟩
  · rw [isSource]
    constructor
    · exact fun defined' => Option.some.inj (defined'.symm.trans defined)
    · rintro rfl
      exact defined
  · intro flag predicate
    rw [meets, List.forall_mem_singleton, aliases]

/-- The second environment stands at the head of a loop that gives values to the names, and the last
one at the end of its body: each of the names is held by a new node that joins what held it before the
loop and at the end of the body. -/
structure Heads (graph : FlowGraph) (size : Nat) (names : List String)
    (before head atEnd : Environment) : Prop where
  reachable : head.reachable = before.reachable
  kept : ∀ name, name ∉ names ∨ before.definitions.get? name = none →
    head.definitions.get? name = before.definitions.get? name
  joined : ∀ name ∈ names, ∀ node, before.Defines name node →
    ∃ joint, head.Defines name joint ∧ size ≤ joint ∧ graph.Hands [] node joint ∧
      (atEnd.reachable = true → ∀ node', atEnd.Defines name node' →
        node' = joint ∨ graph.Hands [] node' joint) ∧
      ∀ other, graph.TaintStep other joint → other = node ∨ atEnd.Defines name other

end Environment

mutual

/-- The nodes from one number to another were added to the graph for the statement, between an
environment before it and one behind it. -/
inductive Outline.Stands (graph : FlowGraph) :
    Environment → Nat → Outline → Environment → Nat → Prop
  | evaluate {before after : Environment} {low high : Nat} {expr : Expr} (grows : low ≤ high)
      (same : after = before) : Outline.Stands graph before low (.evaluate expr) after high
  | assign {before after : Environment} {low high : Nat} {name : String} {value : Expr}
      (grows : low ≤ high) (assigns : before.Assigns graph name after) :
      Outline.Stands graph before low (.assign name value) after high
  | forget {before after : Environment} {low high : Nat} {name : String} (grows : low ≤ high)
      (forgets : after = before.forget name) :
      Outline.Stands graph before low (.forget name) after high
  | branch {before after : Environment} {test : Expr} {guard : Nat} {accepted rejected : Course}
      {low first second third fourth high : Nat} (enters : low ≤ first)
      (whenTrue : before.Refines graph low guard true accepted.start)
      (standsAccepted : Course.Stands graph first accepted second) (between : second ≤ third)
      (whenFalse : before.Refines graph low guard false rejected.start)
      (standsRejected : Course.Stands graph third rejected fourth) (leaves : fourth ≤ high)
      (joins : Environment.Joins graph fourth [accepted.atEnd, rejected.atEnd] after) :
      Outline.Stands graph before low (.branch test guard accepted rejected) after high
  | loop {before head after : Environment} {test : Expr} {guard : Nat} {body : Course}
      {names : List String} {low first second high : Nat} (enters : low ≤ first)
      (heads : Environment.Heads graph low names before head body.atEnd)
      (written : ∀ name, name ∈ names ↔ name ∈ body.writes)
      (whenTrue : head.Refines graph low guard true body.start)
      (standsBody : Course.Stands graph first body second) (leaves : second ≤ high)
      (whenFalse : head.Refines graph low guard false after) :
      Outline.Stands graph before low (.loop test guard head body) after high
  | block {before after : Environment} {body : Course} {low high : Nat}
      (starts : body.start = before) (standsBody : Course.Stands graph low body high)
      (ends : after = body.atEnd) : Outline.Stands graph before low (.block body) after high
  | attempt {before start after : Environment} {body final : Course}
      {handlers : List HandlerCourse} {low first second third fourth high : Nat}
      (starts : body.start = before) (standsBody : Course.Stands graph low body first)
      (meets : Environment.Joins graph first [before, body.atEnd] start)
      (between : first ≤ second) (standHandlers : HandlersStand graph start second handlers third)
      (joins : Environment.Joins graph third
        (body.atEnd :: handlers.map fun handler => handler.course.atEnd) final.start)
      (leaves : third ≤ fourth) (standsFinal : Course.Stands graph fourth final high)
      (ends : after = final.atEnd) :
      Outline.Stands graph before low (.attempt body start handlers final) after high
  | return {before after : Environment} {low high : Nat} {value : Option Expr} (grows : low ≤ high)
      (leaves : after = { before with reachable := false }) :
      Outline.Stands graph before low (.return value) after high

/-- The nodes from one number to another were added to the graph for the statements. -/
inductive Course.Stands (graph : FlowGraph) : Nat → Course → Nat → Prop
  | done {environment : Environment} {low high : Nat} (isBelow : environment.IsBelow low)
      (grows : low ≤ high) : Course.Stands graph low (.done environment) high
  | step {before : Environment} {outline : Outline} {rest : Course} {low middle high : Nat}
      (isBelow : before.IsBelow low)
      (standsFirst : Outline.Stands graph before low outline rest.start middle)
      (standsRest : Course.Stands graph middle rest high) :
      Course.Stands graph low (.step before outline rest) high

/-- The nodes from one number to another were added to the graph for handlers that start from an
environment. -/
inductive HandlersStand (graph : FlowGraph) :
    Environment → Nat → List HandlerCourse → Nat → Prop
  | nil {start : Environment} {low high : Nat} (grows : low ≤ high) :
      HandlersStand graph start low [] high
  | cons {start : Environment} {parameter : Option String} {course : Course}
      {rest : List HandlerCourse} {low first middle high : Nat} (enters : low ≤ first)
      (starts : course.start = start.catching parameter)
      (standsFirst : Course.Stands graph first course middle)
      (standRest : HandlersStand graph start middle rest high) :
      HandlersStand graph start low (⟨parameter, course⟩ :: rest) high

end

end ForwardTaint
