import ForwardTaint.Proofs.OutlinedGraph

/-!
Places of an outline: what stands inside blocks at any depth, and where taint comes from that a
variable has at a place.  What comes to a variable behind statements came to it before them, or
through a node where they write it.
-/

namespace ForwardTaint

variable {graph : FlowGraph}

/-- The statements are a block of the statement. -/
inductive Outline.Encloses : Outline → Course → Prop
  | accepted {test : Expr} {guard : Nat} {accepted rejected : Course} :
      Outline.Encloses (.branch test guard accepted rejected) accepted
  | rejected {test : Expr} {guard : Nat} {accepted rejected : Course} :
      Outline.Encloses (.branch test guard accepted rejected) rejected
  | round {test : Expr} {guard : Nat} {head : Environment} {body : Course} :
      Outline.Encloses (.loop test guard head body) body
  | block {body : Course} : Outline.Encloses (.block body) body
  | attempted {body final : Course} {start : Environment} {handlers : List HandlerCourse} :
      Outline.Encloses (.attempt body start handlers final) body
  | handler {body final : Course} {start : Environment} {handlers : List HandlerCourse}
      {handler : HandlerCourse} (isHandler : handler ∈ handlers) :
      Outline.Encloses (.attempt body start handlers final) handler.course
  | final {body final : Course} {start : Environment} {handlers : List HandlerCourse} :
      Outline.Encloses (.attempt body start handlers final) final

/-- The second statements are what remains of the first ones, or of a block inside them, behind some
place; their start is that place. -/
inductive Course.Has : Course → Course → Prop
  | here {course : Course} : Course.Has course course
  | later {before : Environment} {outline : Outline} {rest inner : Course}
      (has : Course.Has rest inner) : Course.Has (.step before outline rest) inner
  | inside {before : Environment} {outline : Outline} {rest block inner : Course}
      (encloses : outline.Encloses block) (has : Course.Has block inner) :
      Course.Has (.step before outline rest) inner

mutual

/-- Nodes are only added for a statement. -/
theorem Outline.Stands.le {before after : Environment} {outline : Outline} {low high : Nat} :
    Outline.Stands graph before low outline after high → low ≤ high
  | .evaluate grows _ | .assign grows _ | .forget grows _ | .return grows _ => grows
  | .branch enters _ standsAccepted between _ standsRejected leaves _ => by
      have accepted := standsAccepted.le
      have rejected := standsRejected.le
      omega
  | .loop enters _ _ _ standsBody leaves _ => by
      have body := standsBody.le
      omega
  | .block _ standsBody _ => standsBody.le
  | .attempt _ standsBody _ between standHandlers _ leaves standsFinal _ => by
      have body := standsBody.le
      have handlers := standHandlers.le
      have final := standsFinal.le
      omega

theorem Course.Stands.le {course : Course} {low high : Nat} :
    Course.Stands graph low course high → low ≤ high
  | .done _ grows => grows
  | .step _ standsFirst standsRest => Nat.le_trans standsFirst.le standsRest.le

theorem HandlersStand.le {start : Environment} {handlers : List HandlerCourse} {low high : Nat} :
    HandlersStand graph start low handlers high → low ≤ high
  | .nil grows => grows
  | .cons enters _ standsFirst standRest => by
      have first := standsFirst.le
      have rest := standRest.le
      omega

end

namespace Course

variable {course inner : Course} {low high : Nat}

/-- The statements stand in the graph with nodes between two numbers. -/
def StandsWithin (graph : FlowGraph) (low : Nat) (course : Course) (high : Nat) : Prop :=
  ∃ low' high', low ≤ low' ∧ high' ≤ high ∧ Course.Stands graph low' course high'

theorem Stands.within (stands : Course.Stands graph low course high) :
    StandsWithin graph low course high := ⟨low, high, Nat.le_refl _, Nat.le_refl _, stands⟩

theorem StandsWithin.mono {low' high' : Nat} (stands : StandsWithin graph low' course high')
    (atLeast : low ≤ low') (atMost : high' ≤ high) : StandsWithin graph low course high := by
  obtain ⟨first, last, enters, leaves, inside⟩ := stands
  exact ⟨first, last, Nat.le_trans atLeast enters, Nat.le_trans leaves atMost, inside⟩

/-- Where statements stand, each variable is held by a node from before them. -/
theorem Stands.start_isBelow (stands : Course.Stands graph low course high) :
    course.start.IsBelow low := by
  cases stands with
  | done isBelow => exact isBelow
  | step isBelow => exact isBelow

end Course

/-- Each of some handlers stands in the graph, and starts without the variable of what it catches. -/
theorem HandlersStand.of_mem {start : Environment} {handlers : List HandlerCourse} {low high : Nat}
    (stand : HandlersStand graph start low handlers high) {handler : HandlerCourse}
    (isHandler : handler ∈ handlers) :
    handler.course.start = start.catching handler.parameter ∧
      Course.StandsWithin graph low handler.course high := by
  induction handlers generalizing low with
  | nil => exact absurd isHandler List.not_mem_nil
  | cons first rest inductionHypothesis =>
      cases stand with
      | cons enters starts standsFirst standRest =>
          have course := standsFirst.le
          have later := standRest.le
          rcases List.mem_cons.1 isHandler with rfl | isLater
          · exact ⟨starts, standsFirst.within.mono enters later⟩
          · obtain ⟨starts', stands⟩ := inductionHypothesis standRest isLater
            exact ⟨starts', stands.mono (Nat.le_trans enters course) (Nat.le_refl _)⟩

/-- The blocks of a statement stand in the graph. -/
theorem Outline.Stands.of_encloses {before after : Environment} {outline : Outline} {low high : Nat}
    (stands : Outline.Stands graph before low outline after high) {block : Course}
    (encloses : outline.Encloses block) : Course.StandsWithin graph low block high := by
  have grows := stands.le
  cases stands with
  | evaluate | assign | forget | «return» => cases encloses
  | branch enters _ standsAccepted between _ standsRejected leaves _ =>
      have accepted := standsAccepted.le
      have rejected := standsRejected.le
      cases encloses with
      | accepted => exact standsAccepted.within.mono enters (by omega)
      | rejected => exact standsRejected.within.mono (by omega) leaves
  | loop enters _ _ _ standsBody leaves _ =>
      cases encloses with
      | round => exact standsBody.within.mono enters leaves
  | block _ standsBody _ =>
      cases encloses with
      | block => exact standsBody.within
  | attempt _ standsBody _ between standHandlers _ leaves standsFinal _ =>
      have body := standsBody.le
      have handlers := standHandlers.le
      have final := standsFinal.le
      cases encloses with
      | attempted => exact standsBody.within.mono (Nat.le_refl _) (by omega)
      | handler isHandler =>
          exact (standHandlers.of_mem isHandler).2.mono (by omega) (by omega)
      | final => exact standsFinal.within.mono (by omega) (Nat.le_refl _)

/-- What remains behind a place stands in the graph too. -/
theorem Course.Stands.of_has {course inner : Course} (has : course.Has inner) {low high : Nat}
    (stands : Course.Stands graph low course high) : StandsWithin graph low inner high := by
  induction has generalizing low high with
  | here => exact stands.within
  | later has inductionHypothesis =>
      cases stands with
      | step _ standsFirst standsRest =>
          exact (inductionHypothesis standsRest).mono standsFirst.le (Nat.le_refl _)
  | inside encloses has inductionHypothesis =>
      cases stands with
      | step _ standsFirst standsRest =>
          obtain ⟨first, last, enters, leaves, inside⟩ := standsFirst.of_encloses encloses
          exact (inductionHypothesis inside).mono enters (Nat.le_trans leaves standsRest.le)

namespace Environment

variable {environment before after : Environment} {name : String} {first : Nat}

theorem mem_of_mem_meeting {environments : List Environment}
    (member : environment ∈ meeting (before :: environments)) :
    environment ∈ before :: environments := by
  unfold meeting at member
  split at member
  · rw [List.mem_singleton.1 member]
    exact List.mem_cons_self
  · exact (List.mem_filter.1 member).1

theorem receives_catching {parameter : Option String} :
    (environment.catching parameter).Receives graph first name ↔
      parameter ≠ some name ∧ environment.Receives graph first name := by
  unfold Receives
  simp only [defines_catching, and_assoc, exists_and_left]

theorem traces_catching {written : Nat → Prop} {parameter : Option String}
    (starts : after = before.catching parameter) :
    before.Traces graph first name written after := by
  refine .of_defines fun target defined => ?_
  rw [starts, defines_catching] at defined
  exact defined.2

/-- Where ways meet, a variable receives from nodes before the meeting exactly what it received on
one of the ways. -/
theorem Joins.receives_iff {size : Nat} {environments : List Environment}
    (joins : Joins graph size environments after) (isFirst : first < size) :
    after.Receives graph first name ↔
      ∃ environment ∈ meeting environments, environment.Receives graph first name := by
  constructor
  · rintro ⟨node, defined, path⟩
    rcases joins.node name node defined with only | ⟨isNew, -, edges⟩
    · obtain ⟨environment, member, defined'⟩ := mem_sources.1 ((only node).2 rfl)
      exact ⟨environment, member, node, defined', path⟩
    · rcases Relation.ReflTransGen.cases_tail path with same | ⟨source, before, step⟩
      · omega
      · obtain ⟨⟨_, _, label⟩, member, rfl, rfl, -⟩ := step
        obtain ⟨environment, isMet, defined'⟩ := mem_sources.1 ((edges _ label).1 member).2
        exact ⟨environment, isMet, _, defined', before⟩
  · rintro ⟨environment, member, source, defined, path⟩
    have isSource := mem_sources.2 ⟨environment, member, defined⟩
    obtain ⟨node, defined'⟩ := joins.defined name (List.ne_nil_of_mem isSource)
    refine ⟨node, defined', ?_⟩
    rcases joins.node name node defined' with only | ⟨-, -, edges⟩
    · rwa [← (only source).1 isSource]
    · have edge := (edges source (.plain .join)).2 ⟨rfl, isSource⟩
      exact path.tail ⟨_, edge, rfl, rfl, rfl⟩

theorem Joins.traces {size : Nat} {environments : List Environment} {start : Environment}
    {written : Nat → Prop} (joins : Joins graph size (before :: environments) after)
    (isFirst : first < size)
    (all : ∀ environment ∈ before :: environments, start.Traces graph first name written environment) :
    start.Traces graph first name written after := by
  intro steps target defined walk
  rcases joins.node name target defined with only | ⟨isNew, -, edges⟩
  · obtain ⟨environment, isMet, defined'⟩ := mem_sources.1 ((only target).2 rfl)
    exact all environment (mem_of_mem_meeting isMet) steps target defined' walk
  · cases steps with
    | zero =>
        have same : target = first := walk
        omega
    | succ steps =>
        obtain ⟨other, walk, step⟩ := walk
        have isStep := step
        obtain ⟨⟨_, _, label⟩, member, rfl, rfl, -⟩ := isStep
        obtain ⟨environment, isMet, defined'⟩ := mem_sources.1 ((edges _ label).1 member).2
        rcases all environment (mem_of_mem_meeting isMet) steps _ defined' walk with
          ⟨source, fewer, isSource, atMost, walk', path⟩ | ⟨source, isWritten, path, path'⟩
        · exact .inl ⟨source, fewer, isSource, Nat.le_succ_of_le atMost, walk', path.tail step⟩
        · exact .inr ⟨source, isWritten, path, path'.tail step⟩

/-- Where handlers start, what comes to a variable came to it before the body or at its end. -/
theorem Joins.traces_pair {size : Nat} {atEnd : Environment} {written : Nat → Prop}
    (joins : Joins graph size [before, atEnd] after) (isFirst : first < size)
    (body : before.Traces graph first name written atEnd) :
    before.Traces graph first name written after := by
  refine joins.traces isFirst fun environment member => ?_
  rcases List.mem_cons.1 member with rfl | member
  · exact .of_defines fun _ => id
  · rw [List.mem_singleton.1 member]
    exact body

/-- Behind an attempt, what comes to a variable came to it before the body. -/
theorem Joins.traces_ends {size size' : Nat} {start atEnd : Environment} {written : Nat → Prop}
    {handlers : List HandlerCourse} (meets : Joins graph size [before, atEnd] start)
    (joins : Joins graph size' (atEnd :: handlers.map fun handler => handler.course.atEnd) after)
    (isFirst : first < size) (atMost : size ≤ size')
    (body : before.Traces graph first name written atEnd)
    (handled : ∀ handler ∈ handlers,
      start.Traces graph first name written handler.course.atEnd) :
    before.Traces graph first name written after := by
  refine joins.traces (Nat.lt_of_lt_of_le isFirst atMost) fun environment member => ?_
  rcases List.mem_cons.1 member with rfl | member
  · exact body
  · obtain ⟨handler, isHandler, rfl⟩ := List.mem_map.1 member
    exact (meets.traces_pair isFirst body).trans (handled handler isHandler)

/-- What comes to the head of a loop came from before the loop: each round that it went through made
the way shorter. -/
theorem Heads.traces {size : Nat} {names : List String} {head atEnd : Environment}
    {written : Nat → Prop} (heads : Heads graph size names before head atEnd)
    (isFirst : first < size) (round : head.Traces graph first name written atEnd) :
    before.Traces graph first name written head := by
  by_cases joined : name ∈ names ∧ ∃ node, before.Defines name node
  · obtain ⟨isName, node, isNode⟩ := joined
    obtain ⟨joint, isJoint, isNew, -, -, only⟩ := heads.joined name isName node isNode
    intro steps target defined walk
    obtain rfl : joint = target := Option.some.inj (isJoint.symm.trans defined)
    induction steps using Nat.strongRecOn with
    | ind steps inductionHypothesis =>
        cases steps with
        | zero =>
            have same : joint = first := walk
            omega
        | succ steps =>
            obtain ⟨other, walk, step⟩ := walk
            rcases only other step with rfl | isEnd
            · exact .inl ⟨other, steps, isNode, Nat.le_succ _, walk, .single step⟩
            · rcases round steps other isEnd walk with
                ⟨source, fewer, isHead, atMost, walk', -⟩ | ⟨source, isWritten, path, path'⟩
              · obtain rfl : joint = source := Option.some.inj (isJoint.symm.trans isHead)
                rcases inductionHypothesis fewer (by omega) walk' with
                  ⟨origin, fewest, isOrigin, atMost', before⟩ | isWritten
                · exact .inl ⟨origin, fewest, isOrigin, by omega, before⟩
                · exact .inr isWritten
              · exact .inr ⟨source, isWritten, path, path'.tail step⟩
  · refine .of_defines fun target defined => ?_
    have either : name ∉ names ∨ before.definitions.get? name = none := by
      by_cases isName : name ∈ names
      · exact .inr (Option.eq_none_iff_forall_ne_some.2 fun node isNode =>
          joined ⟨isName, node, isNode⟩)
      · exact .inl isName
    exact (heads.kept name either).symm.trans defined

end Environment

/-- The node holds the variable behind one of the statements, at any depth, that writes it. -/
def Course.WritesTo (course : Course) (name : String) (node : Nat) : Prop :=
  ∃ before value rest, course.Has (.step before (.assign name value) rest) ∧
    rest.start.Defines name node

/-- The node holds the variable behind the statement, or one inside it, that writes it. -/
def Outline.WritesTo (outline : Outline) (after : Environment) (name : String) (node : Nat) : Prop :=
  (∃ value, outline = .assign name value ∧ after.Defines name node) ∨
    ∃ block, outline.Encloses block ∧ block.WritesTo name node

theorem Course.writesTo_of_first {before : Environment} {outline : Outline} {rest : Course}
    {name : String} {node : Nat} (writes : outline.WritesTo rest.start name node) :
    Course.WritesTo (.step before outline rest) name node := by
  rcases writes with ⟨value, rfl, defined⟩ | ⟨block, encloses, other, value, later, has, defined⟩
  · exact ⟨before, value, rest, .here, defined⟩
  · exact ⟨other, value, later, .inside encloses has, defined⟩

theorem Course.writesTo_of_rest {before : Environment} {outline : Outline} {rest : Course}
    {name : String} {node : Nat} (writes : rest.WritesTo name node) :
    Course.WritesTo (.step before outline rest) name node := by
  obtain ⟨other, value, later, has, defined⟩ := writes
  exact ⟨other, value, later, .later has, defined⟩

mutual

/-- What comes to a variable behind a statement came to it before the statement, or through a node
where the statement writes it. -/
theorem Outline.Stands.traces {before after : Environment} {outline : Outline} {low high : Nat}
    {name : String} {first : Nat} {written : Nat → Prop} :
    Outline.Stands graph before low outline after high →
    (∀ node, outline.WritesTo after name node → written node) → first < low →
    before.Traces graph first name written after
  | .evaluate _ same, _, _ => same ▸ .of_defines fun _ => id
  | @Outline.Stands.assign _ _ _ _ _ other value _ assigns, isWritten, _ => by
      refine .of_each fun target defined => ?_
      by_cases same : name = other
      · subst same
        exact .inr (.inl (isWritten target (.inl ⟨value, rfl, defined⟩)))
      · exact .inl ((assigns.others name same).symm.trans defined)
  | @Outline.Stands.forget _ _ _ _ _ other _ forgets, _, _ => by
      have forgotten : after = before.catching (some other) := forgets
      exact Environment.traces_catching forgotten
  | .branch enters whenTrue standsAccepted between whenFalse standsRejected leaves joins, isWritten,
      isFirst => by
      have accepted := standsAccepted.le
      have rejected := standsRejected.le
      refine joins.traces (by omega) fun atEnd member => ?_
      rcases List.mem_cons.1 member with rfl | member
      · have inside := standsAccepted.traces
          (fun node writes => isWritten node (.inr ⟨_, .accepted, writes⟩))
          (Nat.lt_of_lt_of_le isFirst enters)
        exact (whenTrue.traces name first isFirst written).trans inside
      · rw [List.mem_singleton.1 member]
        have inside := standsRejected.traces
          (fun node writes => isWritten node (.inr ⟨_, .rejected, writes⟩))
          (Nat.lt_of_lt_of_le isFirst (Nat.le_trans enters (Nat.le_trans accepted between)))
        exact (whenFalse.traces name first isFirst written).trans inside
  | .loop enters heads _ whenTrue standsBody leaves whenFalse, isWritten, isFirst => by
      have inside := standsBody.traces
        (fun node writes => isWritten node (.inr ⟨_, .round, writes⟩))
        (Nat.lt_of_lt_of_le isFirst enters)
      have round := (whenTrue.traces name first isFirst written).trans inside
      exact (heads.traces isFirst round).trans (whenFalse.traces name first isFirst written)
  | .block starts standsBody ends, isWritten, isFirst => by
      subst starts ends
      exact standsBody.traces (fun node writes => isWritten node (.inr ⟨_, .block, writes⟩)) isFirst
  | .attempt starts standsBody meets between standHandlers joins leaves standsFinal ends, isWritten,
      isFirst => by
      subst starts ends
      have bodyGrows := standsBody.le
      have handlersGrow := standHandlers.le
      have inBody := standsBody.traces
        (fun node writes => isWritten node (.inr ⟨_, .attempted, writes⟩)) isFirst
      have toFinal := meets.traces_ends joins (by omega) (Nat.le_trans between handlersGrow) inBody
        fun handler isHandler => standHandlers.traces isHandler
          (fun node writes => isWritten node (.inr ⟨_, .handler isHandler, writes⟩)) (by omega)
      exact toFinal.trans (standsFinal.traces
        (fun node writes => isWritten node (.inr ⟨_, .final, writes⟩)) (by omega))
  | .return _ leaves, _, _ => by
      rw [leaves]
      exact .of_defines fun _ => id

theorem Course.Stands.traces {course : Course} {low high : Nat} {name : String} {first : Nat}
    {written : Nat → Prop} : Course.Stands graph low course high →
    (∀ node, course.WritesTo name node → written node) → first < low →
    course.start.Traces graph first name written course.atEnd
  | .done _ _, _, _ => .of_defines fun _ => id
  | .step _ standsFirst standsRest, isWritten, isFirst => by
      have between := standsFirst.le
      have early := standsFirst.traces
        (fun node writes => isWritten node (Course.writesTo_of_first writes)) isFirst
      exact early.trans (standsRest.traces
        (fun node writes => isWritten node (Course.writesTo_of_rest writes)) (by omega))

theorem HandlersStand.traces {start : Environment} {handlers : List HandlerCourse}
    {low high : Nat} {name : String} {first : Nat} {written : Nat → Prop}
    {handler : HandlerCourse} : HandlersStand graph start low handlers high → handler ∈ handlers →
    (∀ node, handler.course.WritesTo name node → written node) → first < low →
    start.Traces graph first name written handler.course.atEnd
  | .nil _, isHandler, _, _ => absurd isHandler List.not_mem_nil
  | .cons enters starts standsFirst standRest, isHandler, isWritten, isFirst => by
      have between := standsFirst.le
      rcases List.mem_cons.1 isHandler with rfl | isLater
      · exact (Environment.traces_catching starts).trans (standsFirst.traces isWritten (by omega))
      · exact standRest.traces isLater isWritten (by omega)

end

end ForwardTaint
