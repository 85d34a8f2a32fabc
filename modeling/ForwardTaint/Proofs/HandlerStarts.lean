import ForwardTaint.Proofs.ControlPaths
import ForwardTaint.Proofs.Places

/-!
What handlers and final blocks receive from the body of an attempt.  The construction lets a handler
start from the entry and the end of the body only, so a definition from a place between reaches the
handler exactly where it reaches one of these two.
-/

namespace ForwardTaint

section Reads

variable {graph : FlowGraph}

namespace Event

theorem of_mem_reads {environment before : Environment} {name : String} {expr : Expr}
    (member : .read environment name ∈ reads before expr) : environment = before := by
  obtain ⟨other, -, same⟩ := List.mem_map.1 member
  injection same with sameEnvironment
  exact sameEnvironment.symm

end Event

/-- An expression is read in the environment before it. -/
theorem Environment.Traces.of_read {environment before : Environment} {name : String} {first : Nat}
    {written : Nat → Prop} {expr : Expr} (member : .read environment name ∈ Event.reads before expr) :
    before.Traces graph first name written environment := by
  rw [Event.of_mem_reads member]
  exact .of_defines fun _ => id

theorem of_mem_loopEvents {environment before head : Environment} {name : String} {test : Expr}
    {guard : Nat} {rounds : List (List Event)}
    (member : .read environment name ∈ loopEvents test guard before head rounds) :
    environment = head ∨ ∃ round ∈ rounds, .read environment name ∈ round := by
  obtain ⟨round, isRound, member⟩ := List.mem_flatMap.1 member
  rcases List.mem_append.1 member with member | member
  · exact .inl (Event.of_mem_reads member)
  · have inside : .read environment name ∈ round := by simpa using member
    exact .inr ⟨round, isRound, inside⟩

theorem HandlerCourse.of_mem_entered {handler : HandlerCourse} {broken : List Event}
    {environment : Environment} {name : String}
    (member : .read environment name ∈ handler.entered broken) :
    .read environment name ∈ broken := by
  simpa [entered] using member

mutual

/-- On a way through a statement, what comes to a read of a variable came to the variable before the
statement, or through a node where the statement writes it. -/
theorem Outline.Stands.traces_read {before after environment : Environment} {outline : Outline}
    {low high : Nat} {name : String} {first : Nat} {written : Nat → Prop} {loops : List Nat}
    {events : List Event} {falls : Bool} : Outline.Stands graph before low outline after high →
    (∀ node, outline.WritesTo after name node → written node) → first < low →
    Outline.Path loops outline before after events falls → .read environment name ∈ events →
    before.Traces graph first name written environment
  | .evaluate _ _, _, _, way, member => by
      cases way with
      | evaluate => exact .of_read member
  | .assign _ _, _, _, way, member => by
      cases way with
      | assign =>
          simp only [List.mem_append, List.mem_cons, reduceCtorEq, List.not_mem_nil, or_false] at member
          exact .of_read member
  | .forget _ _, _, _, way, member => by
      cases way with
      | forget => exact nomatch List.mem_singleton.1 member
  | .branch enters whenTrue standsAccepted between whenFalse standsRejected leaves _, isWritten,
      isFirst, way, member => by
      have accepted := standsAccepted.le
      cases way with
      | accepted way =>
          simp only [List.mem_append, List.mem_cons, reduceCtorEq, false_or] at member
          rcases member with member | member
          · exact .of_read member
          · have inside := standsAccepted.traces_read
              (fun node writes => isWritten node (.inr ⟨_, .accepted, writes⟩))
              (Nat.lt_of_lt_of_le isFirst enters) way member
            exact (whenTrue.traces name first isFirst written).trans inside
      | rejected way =>
          simp only [List.mem_append, List.mem_cons, reduceCtorEq, false_or] at member
          rcases member with member | member
          · exact .of_read member
          · have inside := standsRejected.traces_read
              (fun node writes => isWritten node (.inr ⟨_, .rejected, writes⟩))
              (Nat.lt_of_lt_of_le isFirst (Nat.le_trans enters (Nat.le_trans accepted between)))
              way member
            exact (whenFalse.traces name first isFirst written).trans inside
  | @Outline.Stands.loop _ _ head _ _ guard body _ _ _ _ _ enters heads _ whenTrue standsBody leaves
      _, isWritten, isFirst, way, member => by
      have isFirst' := Nat.lt_of_lt_of_le isFirst enters
      have isWritten' := fun node writes => isWritten node (.inr ⟨body, .round, writes⟩)
      have enter := whenTrue.traces name first isFirst written
      have atHead := heads.traces isFirst (enter.trans (standsBody.traces isWritten' isFirst'))
      have inside {round : List Event} {falls : Bool}
          (way : Course.Path (guard :: loops) body round falls)
          (member : .read environment name ∈ round) :=
        (atHead.trans enter).trans (standsBody.traces_read isWritten' isFirst' way member)
      cases way with
      | loopLeft ways =>
          simp only [List.mem_append, List.mem_cons, reduceCtorEq, List.not_mem_nil, or_false] at member
          rcases member with member | member
          · rcases of_mem_loopEvents member with rfl | ⟨round, isRound, member⟩
            · exact atHead
            · exact inside (ways round isRound) member
          · exact atHead.trans (.of_read member)
      | loopStopped ways last =>
          simp only [List.mem_append, List.mem_cons, reduceCtorEq, false_or] at member
          rcases member with member | member | member
          · rcases of_mem_loopEvents member with rfl | ⟨round, isRound, member⟩
            · exact atHead
            · exact inside (ways round isRound) member
          · exact atHead.trans (.of_read member)
          · exact inside last member
  | .block starts standsBody _, isWritten, isFirst, way, member => by
      subst starts
      cases way with
      | block way =>
          exact standsBody.traces_read
            (fun node writes => isWritten node (.inr ⟨_, .block, writes⟩)) isFirst way member
  | @Outline.Stands.attempt _ _ _ _ body final handlers _ _ _ _ _ _ starts standsBody meets between
      standHandlers joins leaves standsFinal _, isWritten, isFirst, way, member => by
      subst starts
      have bodyGrows := standsBody.le
      have handlersGrow := standHandlers.le
      have isWrittenBody := fun node writes => isWritten node (.inr ⟨body, .attempted, writes⟩)
      have isWrittenHandler {handler : HandlerCourse} (isHandler : handler ∈ handlers) :=
        fun node writes => isWritten node (.inr ⟨handler.course, .handler isHandler, writes⟩)
      have toEnd := standsBody.traces isWrittenBody isFirst
      have toStart := meets.traces_pair (by omega) toEnd
      have toFinal := meets.traces_ends joins (by omega) (Nat.le_trans between handlersGrow) toEnd
        fun handler isHandler =>
          standHandlers.traces isHandler (isWrittenHandler isHandler) (by omega)
      have inBody {events : List Event} {falls : Bool} (way : Course.Path loops body events falls)
          (member : .read environment name ∈ events) :=
        standsBody.traces_read isWrittenBody isFirst way member
      have inHandler {handler : HandlerCourse} (isHandler : handler ∈ handlers) {events : List Event}
          {falls : Bool} (way : Course.Path loops handler.course events falls)
          (member : .read environment name ∈ events) :=
        toStart.trans (standHandlers.traces_read isHandler (isWrittenHandler isHandler) (by omega) way
          member)
      have inFinal {events : List Event} {falls : Bool} (way : Course.Path loops final events falls)
          (member : .read environment name ∈ events) :=
        toFinal.trans (standsFinal.traces_read
          (fun node writes => isWritten node (.inr ⟨_, .final, writes⟩)) (by omega) way member)
      cases way with
      | attempt way last =>
          rcases List.mem_append.1 member with member | member
          · exact inBody way member
          · exact inFinal last member
      | attemptStopped way => exact inBody way member
      | handled isHandler way handles last =>
          rcases List.mem_append.1 member with member | member
          · exact inBody way (List.mem_append_left _ (HandlerCourse.of_mem_entered member))
          · rcases List.mem_append.1 member with member | member
            · exact inHandler isHandler handles member
            · exact inFinal last member
      | handlerStopped isHandler way handles =>
          rcases List.mem_append.1 member with member | member
          · exact inBody way (List.mem_append_left _ (HandlerCourse.of_mem_entered member))
          · exact inHandler isHandler handles member
  | .return _ _, _, _, way, member => by
      cases way with
      | «return» =>
          obtain ⟨expr, -, member⟩ := List.mem_flatMap.1 member
          exact .of_read member

theorem Course.Stands.traces_read {course : Course} {environment : Environment} {low high : Nat}
    {name : String} {first : Nat} {written : Nat → Prop} {loops : List Nat} {events : List Event}
    {falls : Bool} : Course.Stands graph low course high →
    (∀ node, course.WritesTo name node → written node) → first < low →
    Course.Path loops course events falls → .read environment name ∈ events →
    course.start.Traces graph first name written environment
  | .done _ _, _, _, way, member => by
      cases way with
      | done => exact absurd member List.not_mem_nil
  | .step _ standsFirst standsRest, isWritten, isFirst, way, member => by
      have between := standsFirst.le
      have isWrittenFirst := fun node writes => isWritten node (Course.writesTo_of_first writes)
      cases way with
      | step way later =>
          rcases List.mem_append.1 member with member | member
          · exact standsFirst.traces_read isWrittenFirst isFirst way member
          · exact (standsFirst.traces isWrittenFirst isFirst).trans (standsRest.traces_read
              (fun node writes => isWritten node (Course.writesTo_of_rest writes)) (by omega) later
              member)
      | stopped way => exact standsFirst.traces_read isWrittenFirst isFirst way member

theorem HandlersStand.traces_read {start environment : Environment}
    {handlers : List HandlerCourse} {low high : Nat} {name : String} {first : Nat}
    {written : Nat → Prop} {handler : HandlerCourse} {loops : List Nat} {events : List Event}
    {falls : Bool} : HandlersStand graph start low handlers high → handler ∈ handlers →
    (∀ node, handler.course.WritesTo name node → written node) → first < low →
    Course.Path loops handler.course events falls → .read environment name ∈ events →
    start.Traces graph first name written environment
  | .nil _, isHandler, _, _, _, _ => absurd isHandler List.not_mem_nil
  | .cons enters starts standsFirst standRest, isHandler, isWritten, isFirst, way, member => by
      have between := standsFirst.le
      rcases List.mem_cons.1 isHandler with rfl | isLater
      · exact (Environment.traces_catching starts).trans
          (standsFirst.traces_read isWritten (by omega) way member)
      · exact standRest.traces_read isLater isWritten (by omega) way member

end

namespace Course

variable {course : Course} {low high first : Nat} {name : String}

/-- On some way through the statements they read the variable in the environment, before they change
it. -/
def ReadsFirst (course : Course) (name : String) (atRead : Environment) : Prop :=
  ∃ (loops : List Nat) (earlier later : List Event) (falls : Bool),
    Course.Path loops course (earlier ++ .read atRead name :: later) falls ∧
      ∀ event ∈ earlier, event.Keeps name

/-- What a variable receives at the start of statements comes to every read before they change it. -/
theorem Stands.receives_read (stands : Course.Stands graph low course high)
    (live : course.start.reachable = true) (received : course.start.Receives graph first name)
    {atRead : Environment} (reads : course.ReadsFirst name atRead) :
    atRead.Receives graph first name := by
  obtain ⟨loops, earlier, later, falls, way, keeps⟩ := reads
  obtain ⟨node, defined, path⟩ := received
  obtain ⟨tests, passes⟩ := graph.exists_passes node
  have carries : course.start.Carries graph name (some ⟨node, [], tests⟩) := by
    intro last isLast
    obtain rfl := Option.some.inj isLast
    exact ⟨passes, node, defined, .refl⟩
  have tracks := Course.tracks course stands live way carries
  have isLast := @Tracked.after_kept name ⟨node, [], tests⟩ earlier keeps
    fun _ _ _ inside => absurd inside List.not_mem_nil
  have carry := (ReadsCarry.append_iff.1 tracks.reads).2
  rw [isLast] at carry
  obtain ⟨-, node', defined', hands⟩ := carry.1 atRead rfl _ rfl
  exact ⟨node', defined', path.trans hands.taintPath⟩

/-- What statements take of a definition that comes to their start under a condition.  Their first
reads of the variable receive it exactly under the condition, or through a node where they write the
variable themselves. -/
structure Takes (graph : FlowGraph) (course : Course) (first : Nat) (name : String)
    (comes : Prop) : Prop where
  start : course.start.Receives graph first name ↔ comes
  reads : course.start.reachable = true → ∀ atRead, course.ReadsFirst name atRead →
    (atRead.Receives graph first name ↔ comes ∨ ∃ node, course.WritesTo name node ∧
      graph.TaintPath first node ∧ atRead.Receives graph node name)

theorem Stands.takes (stands : Course.Stands graph low course high) (isFirst : first < low)
    {comes : Prop} (start : course.start.Receives graph first name ↔ comes) :
    course.Takes graph first name comes := by
  refine ⟨start, fun live atRead reads => ⟨fun received => ?_, ?_⟩⟩
  · obtain ⟨loops, earlier, later, falls, way, -⟩ := reads
    have member : .read atRead name ∈ earlier ++ .read atRead name :: later :=
      List.mem_append_right _ List.mem_cons_self
    have traces := stands.traces_read (fun _ => id) isFirst way member
    exact (traces.receives received).imp_left start.1
  · rintro (comes | ⟨node, -, path, target, defined, path'⟩)
    · exact stands.receives_read live (start.2 comes) reads
    · exact ⟨target, defined, path.trans path'⟩

end Course

end Reads

namespace FlowGraph

/-- What handlers and final blocks take from the body of an attempt.  A definition that is current at
some place of the body comes to a handler exactly if it comes to the variable at the entry or at the
end of the body, of those that control comes from, and the handler does not catch into the variable;
it comes to the final block exactly if it comes to an end of the body or of a handler.  A handler
starts with exactly the flags that are bound both at the entry and at the end of the body. -/
theorem build_hands_to_handlers {catalog : Catalog} {unitConstants : StringMap String}
    {procedure : Procedure} {graph : FlowGraph}
    (built : build catalog unitConstants procedure = .ok graph) :
    ∃ course, outline catalog unitConstants procedure = .ok (course, graph) ∧
      course.Shows procedure.body ∧
      ∀ (entry start : Environment) (body final rest : Course) (handlers : List HandlerCourse),
        course.Has (.step entry (.attempt body start handlers final) rest) →
        (∀ (place : Course) (name : String) (current : Nat), body.Has place →
          place.start.Defines name current →
          (∀ handler ∈ handlers, handler.course.Takes graph current name
            (handler.parameter ≠ some name ∧
              ∃ environment ∈ Environment.meeting [entry, body.atEnd],
                environment.Receives graph current name)) ∧
          final.Takes graph current name
            (∃ environment ∈ Environment.meeting
                (body.atEnd :: handlers.map fun handler => handler.course.atEnd),
              environment.Receives graph current name)) ∧
        ∀ handler ∈ handlers, ∀ flag predicate,
          handler.course.start.aliases.get? flag = some predicate ↔
            (∀ caught, handler.parameter = some caught →
              flag ≠ caught ∧ caught ∉ predicate.variableNames) ∧
            ∀ environment ∈ Environment.meeting [entry, body.atEnd],
              environment.aliases.get? flag = some predicate := by
  obtain ⟨course, outlined, isOutlined⟩ := isOutlined_of_build built
  refine ⟨course, outlined, isOutlined.shows, ?_⟩
  intro entry start body final rest handlers has
  obtain ⟨low, high, stands⟩ := isOutlined.stands
  obtain ⟨_, _, -, -, stands⟩ := stands.of_has has
  cases stands with
  | step _ standsAttempt _ =>
      cases standsAttempt with
      | attempt starts standsBody meets between standHandlers joins leaves standsFinal ends =>
          have handlersGrow := standHandlers.le
          constructor
          · intro place name current hasPlace defined
            obtain ⟨_, last, -, atMost, standsPlace⟩ := standsBody.of_has hasPlace
            have isBelow := standsPlace.start_isBelow name current defined
            have grows := standsPlace.le
            constructor
            · intro handler isHandler
              obtain ⟨startsHandler, first, _, enters, -, standsHandler⟩ :=
                standHandlers.of_mem isHandler
              apply standsHandler.takes (by omega)
              rw [startsHandler, Environment.receives_catching, meets.receives_iff (by omega)]
            · exact standsFinal.takes (by omega) (joins.receives_iff (by omega))
          · intro handler isHandler flag predicate
            obtain ⟨startsHandler, -⟩ := standHandlers.of_mem isHandler
            rw [startsHandler, Environment.aliases_catching, meets.aliases]

end FlowGraph

namespace RewrittenPath

/-- Forwards the path when an attempt fails in which the path has the value of a parameter for a
while. -/
def procedure : Procedure :=
  { Procedure.named "serve" with
    body := [
      .declare "path" none (some (.literal "/home")) .zero,
      .attempt
        [.assign "path" (.localCall "getParameter" []) .zero,
          .assign "path" (.literal "/safe") .zero]
        [⟨none, none, [.evaluate (.localCall "forward" [.variable "path"]) .zero]⟩] none] }

def graph : FlowGraph where
  procedureName := "serve"
  nodes := #[
    ⟨.literal, "/home", .zero, none⟩,
    ⟨.variableRef, "path = \"/home\"", .zero, some "path"⟩,
    ⟨.sourceCall, "getParameter()", .zero, none⟩,
    ⟨.variableRef, "path = getParameter()", .zero, some "path"⟩,
    ⟨.literal, "/safe", .zero, none⟩,
    ⟨.variableRef, "path = \"/safe\"", .zero, some "path"⟩,
    ⟨.phi, "join path", .zero, some "path"⟩,
    ⟨.sinkCall [0], "forward(path)", .zero, none⟩,
    ⟨.phi, "join path", .zero, some "path"⟩]
  edges := [
    ⟨6, 8, .plain .join⟩, ⟨5, 8, .plain .join⟩, ⟨6, 7, .plain (.argument 0)⟩, ⟨5, 6, .plain .join⟩,
    ⟨1, 6, .plain .join⟩, ⟨4, 5, .plain .assign⟩, ⟨2, 3, .plain .assign⟩, ⟨0, 1, .plain .assign⟩]
  guards := #[]
  sources := [2]
  sinks := [7]

/-- The environment in which a node holds the path. -/
def environment (node : Nat) : Environment := ⟨StringMap.empty.insert "path" node, .empty, true⟩

/-- The body behind the place where the path has the value of the parameter. -/
def rewriting : Course :=
  .step (environment 3) (.assign "path" (.literal "/safe")) (.done (environment 5))

def body : Course :=
  .step (environment 1) (.assign "path" (.localCall "getParameter" [])) rewriting

def handler : HandlerCourse :=
  ⟨none, .step (environment 6) (.evaluate (.localCall "forward" [.variable "path"]))
    (.done (environment 6))⟩

def attempt : Course :=
  .step (environment 1) (.attempt body (environment 6) [handler] (.done (environment 8)))
    (.done (environment 8))

def course : Course := .step .entry (.assign "path" (.literal "/home")) attempt

theorem outline_eq : FlowGraph.outline DecodingLoop.catalog .empty procedure = .ok (course, graph) := by
  cbv

theorem build_eq : FlowGraph.build DecodingLoop.catalog .empty procedure = .ok graph := by
  rw [← FlowGraph.outline_eq, outline_eq]
  rfl

/-- The handler forwards the path that it starts with. -/
theorem handler_reads : handler.course.ReadsFirst "path" (environment 6) := by
  have way : Course.Path [] handler.course [.read (environment 6) "path"] true :=
    .step .evaluate .done
  exact ⟨[], [], [], true, way, fun _ member => nomatch member⟩

/-- The value of the parameter does not come to the handler, which may start while the path has it. -/
theorem handler_misses_parameter :
    FlowGraph.outline DecodingLoop.catalog .empty procedure = .ok (course, graph) ∧
    course.Has attempt ∧ body.Has rewriting ∧ rewriting.start.Defines "path" 3 ∧
    handler.course.ReadsFirst "path" (environment 6) ∧
    ¬(environment 6).Receives graph 3 "path" := by
  refine ⟨outline_eq, .later .here, .later .here, rfl, handler_reads, ?_⟩
  rintro ⟨node, defined, path⟩
  obtain rfl : 6 = node := Option.some.inj defined
  rcases Relation.ReflTransGen.cases_head path with same | ⟨next, step, -⟩
  · exact absurd same (by decide)
  · obtain ⟨edge, member, starts, -⟩ := step
    have others : ∀ edge ∈ graph.edges, edge.source ≠ 3 := by decide
    exact others edge member starts

/-- The handler forwards the path of the entry and the path of the end of the body. -/
theorem handler_receives_entry_and_end :
    FlowGraph.build DecodingLoop.catalog .empty procedure = .ok graph ∧
    handler.course.ReadsFirst "path" (environment 6) ∧
    (environment 6).Receives graph 1 "path" ∧ (environment 6).Receives graph 5 "path" := by
  obtain ⟨course', outlined, -, takes⟩ := FlowGraph.build_hands_to_handlers build_eq
  obtain ⟨rfl, -⟩ := Prod.mk.inj (Except.ok.inj (outlined.symm.trans outline_eq))
  have comes {current : Nat} {place : Course} (has : body.Has place)
      (defined : place.start.Defines "path" current)
      (isMet : place.start ∈ Environment.meeting [environment 1, environment 5]) :
      (environment 6).Receives graph current "path" := by
    obtain ⟨places, -⟩ := takes _ _ _ _ _ _ (.later .here)
    obtain ⟨handlers, -⟩ := places place "path" current has defined
    have takesHandler := handlers handler (List.mem_singleton_self _)
    have received : place.start.Receives graph current "path" := ⟨current, defined, .refl⟩
    exact (takesHandler.reads rfl _ handler_reads).2 (.inl ⟨nofun, place.start, isMet, received⟩)
  refine ⟨build_eq, handler_reads, ?_, ?_⟩
  · exact comes .here rfl List.mem_cons_self
  · exact comes (.later (.later .here)) rfl (List.mem_cons_of_mem _ List.mem_cons_self)

end RewrittenPath

end ForwardTaint
