import ForwardTaint.Proofs.ControlPaths
import ForwardTaint.Proofs.Places

/-!
What becomes of the values that loops write.  From the end of a loop's body control comes to the head
again, and from there to later rounds and to what follows the loop and the statements around it.
Where the variable had a definition before the loop, each read on such a way receives what the
variable held at the end of the body; where it had none, the head has none either.
-/

namespace ForwardTaint

mutual

/-- The events on a way on from a place inside a statement, and whether control goes on behind the
statement.  The place is inside the loops of some guards, and the statement inside some of them.
From the end of a loop's body control comes to the head again.  A handler that breaks off a body with
the place in it may have been entered after any write of the body; a way that leaves an attempt by a
return or past its handlers is not followed into the final block. -/
inductive Outline.Onward (place : Course) (around : List Nat) :
    List Nat → Outline → Environment → Environment → List Event → Bool → Prop
  | accepted {loops : List Nat} {test : Expr} {guard : Nat} {accepted rejected : Course}
      {before after : Environment} {events : List Event} {falls : Bool}
      (onward : Course.Onward place around loops accepted events falls) :
      Outline.Onward place around loops (.branch test guard accepted rejected) before after events
        falls
  | rejected {loops : List Nat} {test : Expr} {guard : Nat} {accepted rejected : Course}
      {before after : Environment} {events : List Event} {falls : Bool}
      (onward : Course.Onward place around loops rejected events falls) :
      Outline.Onward place around loops (.branch test guard accepted rejected) before after events
        falls
  | again {loops : List Nat} {test : Expr} {guard : Nat} {body : Course}
      {before head after : Environment} {first second : List Event} {falls : Bool}
      (onward : Course.Onward place around (guard :: loops) body first true)
      (way : Outline.Path loops (.loop test guard head body) before after second falls) :
      Outline.Onward place around loops (.loop test guard head body) before after
        (first ++ .again guard before :: second) falls
  | roundStopped {loops : List Nat} {test : Expr} {guard : Nat} {body : Course}
      {before head after : Environment} {events : List Event}
      (onward : Course.Onward place around (guard :: loops) body events false) :
      Outline.Onward place around loops (.loop test guard head body) before after events false
  | block {loops : List Nat} {body : Course} {before after : Environment} {events : List Event}
      {falls : Bool} (onward : Course.Onward place around loops body events falls) :
      Outline.Onward place around loops (.block body) before after events falls
  | attempt {loops : List Nat} {body final : Course} {handlers : List HandlerCourse}
      {before start after : Environment} {first second : List Event} {falls : Bool}
      (onward : Course.Onward place around loops body first true)
      (last : Course.Path loops final second falls) :
      Outline.Onward place around loops (.attempt body start handlers final) before after
        (first ++ second) falls
  | attemptStopped {loops : List Nat} {body final : Course} {handlers : List HandlerCourse}
      {before start after : Environment} {events : List Event}
      (onward : Course.Onward place around loops body events false) :
      Outline.Onward place around loops (.attempt body start handlers final) before after events
        false
  | brokenOff {loops : List Nat} {body final : Course} {handlers : List HandlerCourse}
      {handler : HandlerCourse} {before start after : Environment}
      {first missed second third : List Event} {unbroken falls : Bool}
      (isHandler : handler ∈ handlers)
      (onward : Course.Onward place around loops body (first ++ missed) unbroken)
      (handles : Course.Path loops handler.course second true)
      (last : Course.Path loops final third falls) :
      Outline.Onward place around loops (.attempt body start handlers final) before after
        (first ++ .caught body.writes ::
          (handler.parameter.toList.map .forget ++ (second ++ third))) falls
  | brokenOffStopped {loops : List Nat} {body final : Course} {handlers : List HandlerCourse}
      {handler : HandlerCourse} {before start after : Environment}
      {first missed second : List Event} {unbroken : Bool} (isHandler : handler ∈ handlers)
      (onward : Course.Onward place around loops body (first ++ missed) unbroken)
      (handles : Course.Path loops handler.course second false) :
      Outline.Onward place around loops (.attempt body start handlers final) before after
        (first ++ .caught body.writes :: (handler.parameter.toList.map .forget ++ second)) false
  | handler {loops : List Nat} {body final : Course} {handlers : List HandlerCourse}
      {handler : HandlerCourse} {before start after : Environment}
      {first second : List Event} {falls : Bool} (isHandler : handler ∈ handlers)
      (onward : Course.Onward place around loops handler.course first true)
      (last : Course.Path loops final second falls) :
      Outline.Onward place around loops (.attempt body start handlers final) before after
        (first ++ second) falls
  | handlerStopped {loops : List Nat} {body final : Course} {handlers : List HandlerCourse}
      {handler : HandlerCourse} {before start after : Environment} {events : List Event}
      (isHandler : handler ∈ handlers)
      (onward : Course.Onward place around loops handler.course events false) :
      Outline.Onward place around loops (.attempt body start handlers final) before after events
        false
  | final {loops : List Nat} {body final : Course} {handlers : List HandlerCourse}
      {before start after : Environment} {events : List Event} {falls : Bool}
      (onward : Course.Onward place around loops final events falls) :
      Outline.Onward place around loops (.attempt body start handlers final) before after events
        falls

/-- The events on a way on from a place inside statements, and whether control goes on behind
them. -/
inductive Course.Onward (place : Course) (around : List Nat) :
    List Nat → Course → List Event → Bool → Prop
  | here {events : List Event} {falls : Bool} (way : Course.Path around place events falls) :
      Course.Onward place around around place events falls
  | later {loops : List Nat} {before : Environment} {outline : Outline} {rest : Course}
      {events : List Event} {falls : Bool}
      (onward : Course.Onward place around loops rest events falls) :
      Course.Onward place around loops (.step before outline rest) events falls
  | inside {loops : List Nat} {before : Environment} {outline : Outline} {rest : Course}
      {first second : List Event} {falls : Bool}
      (onward : Outline.Onward place around loops outline before rest.start first true)
      (way : Course.Path loops rest second falls) :
      Course.Onward place around loops (.step before outline rest) (first ++ second) falls
  | stopped {loops : List Nat} {before : Environment} {outline : Outline} {rest : Course}
      {events : List Event}
      (onward : Outline.Onward place around loops outline before rest.start events false) :
      Course.Onward place around loops (.step before outline rest) events false

end

/-- The writes of a handler are among those of the handlers. -/
theorem writes_subset_writesOfHandlers {handler : HandlerCourse} {handlers : List HandlerCourse}
    (isHandler : handler ∈ handlers) : handler.course.writes ⊆ writesOfHandlers handlers := by
  induction handlers with
  | nil => exact absurd isHandler List.not_mem_nil
  | cons first rest inductionHypothesis =>
      obtain ⟨parameter, course⟩ := first
      rw [writesOfHandlers]
      rcases List.mem_cons.1 isHandler with rfl | later
      · exact List.subset_append_left _ _
      · exact List.Subset.trans (inductionHypothesis later) (List.subset_append_right _ _)

/-- The end of a handler is among the environments that meet behind an attempt. -/
theorem HandlerCourse.atEnd_mem {handler : HandlerCourse} {handlers : List HandlerCourse}
    (isHandler : handler ∈ handlers) (atEnd : Environment) :
    handler.course.atEnd ∈ atEnd :: handlers.map fun handler => handler.course.atEnd :=
  List.mem_cons_of_mem _ (List.mem_map_of_mem isHandler)

section Within

variable {place : Course} {around : List Nat}

mutual

/-- The place is in the loops around the statement, and what is written behind it is written by the
statement. -/
theorem Outline.Onward.within {outline : Outline} {loops : List Nat} {before after : Environment}
    {events : List Event} {falls : Bool} :
    Outline.Onward place around loops outline before after events falls →
      loops ⊆ around ∧ place.writes ⊆ outline.writes
  | .accepted onward =>
      onward.within.imp_right fun writes => List.Subset.trans writes (List.subset_append_left _ _)
  | .rejected onward =>
      onward.within.imp_right fun writes => List.Subset.trans writes (List.subset_append_right _ _)
  | .again onward _ | .roundStopped onward =>
      onward.within.imp_left fun loops => List.Subset.trans (List.subset_cons_self _ _) loops
  | .block onward => onward.within
  | .attempt onward _ | .attemptStopped onward | .brokenOff _ onward _ _
  | .brokenOffStopped _ onward _ =>
      onward.within.imp_right fun writes _ member =>
        List.mem_append_left _ (List.mem_append_left _ (writes member))
  | .handler isHandler onward _ | .handlerStopped isHandler onward =>
      onward.within.imp_right fun writes _ member => List.mem_append_left _
        (List.mem_append_right _ (writes_subset_writesOfHandlers isHandler (writes member)))
  | .final onward =>
      onward.within.imp_right fun writes => List.Subset.trans writes (List.subset_append_right _ _)

theorem Course.Onward.within {course : Course} {loops : List Nat} {events : List Event}
    {falls : Bool} : Course.Onward place around loops course events falls →
      loops ⊆ around ∧ place.writes ⊆ course.writes
  | .here _ => ⟨fun _ => id, fun _ => id⟩
  | .later onward =>
      onward.within.imp_right fun writes => List.Subset.trans writes (List.subset_append_right _ _)
  | .inside onward _ | .stopped onward =>
      onward.within.imp_right fun writes => List.Subset.trans writes (List.subset_append_left _ _)

end

end Within

/-- A handler catches where control comes to it. -/
theorem Environment.reachable_catching (environment : Environment) (parameter : Option String) :
    (environment.catching parameter).reachable = environment.reachable := by
  cases parameter <;> rfl

mutual

/-- Control does not come behind a statement that it does not come to. -/
theorem Outline.Stands.live {graph : FlowGraph} {outline : Outline} {before after : Environment}
    {low high : Nat} : Outline.Stands graph before low outline after high →
    after.reachable = true → before.reachable = true
  | .evaluate _ same, live => by rwa [same] at live
  | .assign _ assigns, live => by rwa [assigns.reachable] at live
  | .forget _ forgets, live => by rwa [forgets] at live
  | .branch _ whenTrue standsAccepted _ whenFalse standsRejected _ joins, live => by
      rw [joins.reachable, List.any_eq_true] at live
      obtain ⟨atEnd, member, live⟩ := live
      rcases List.mem_cons.1 member with rfl | member
      · exact whenTrue.reachable.symm.trans (standsAccepted.live live)
      · rw [List.mem_singleton.1 member] at live
        exact whenFalse.reachable.symm.trans (standsRejected.live live)
  | .loop _ heads _ _ _ _ whenFalse, live => by
      rwa [whenFalse.reachable, heads.reachable] at live
  | .block starts standsBody ends, live => by
      subst starts ends
      exact standsBody.live live
  | .attempt starts standsBody meets _ standHandlers joins _ standsFinal ends, live => by
      subst starts ends
      have live := standsFinal.live live
      rw [joins.reachable, List.any_eq_true] at live
      obtain ⟨atEnd, member, live⟩ := live
      rcases List.mem_cons.1 member with rfl | member
      · exact standsBody.live live
      · have live := standHandlers.live member live
        rw [meets.reachable, List.any_eq_true] at live
        obtain ⟨start, member, live⟩ := live
        rcases List.mem_cons.1 member with rfl | member
        · exact live
        · rw [List.mem_singleton.1 member] at live
          exact standsBody.live live
  | .return _ leaves, live => by
      rw [leaves] at live
      exact nomatch live

theorem Course.Stands.live {graph : FlowGraph} {course : Course} {low high : Nat} :
    Course.Stands graph low course high → course.atEnd.reachable = true →
      course.start.reachable = true
  | .done _ _, live => live
  | .step _ standsFirst standsRest, live => standsFirst.live (standsRest.live live)

theorem HandlersStand.live {graph : FlowGraph} {start atEnd : Environment}
    {handlers : List HandlerCourse} {low high : Nat} :
    HandlersStand graph start low handlers high →
    atEnd ∈ handlers.map (fun handler => handler.course.atEnd) → atEnd.reachable = true →
      start.reachable = true
  | .nil _, member, _ => absurd member List.not_mem_nil
  | .cons _ starts standsFirst standRest, member, live => by
      rcases List.mem_cons.1 member with rfl | later
      · have live := standsFirst.live live
        rwa [starts, Environment.reachable_catching] at live
      · exact standRest.live later live

end

/-- The event keeps what a variable has; and where control comes with it to the head of a loop around
a place, the variable had a definition before the loop. -/
def Event.PassesOn (name : String) (around : List Nat) (event : Event) : Prop :=
  event.Keeps name ∧ ∀ guard entry, event = .again guard entry → guard ∈ around →
    ∃ node, entry.Defines name node

/-- On a way on from a place in some loops each read of a variable receives taint from a node, as
long as the variable is kept, and so does the variable behind the way. -/
structure Delivers (graph : FlowGraph) (written : Nat) (name : String) (around : List Nat)
    (events : List Event) (after : Environment) (falls : Bool) : Prop where
  reads : ∀ between atRead later, events = between ++ .read atRead name :: later →
    (∀ event ∈ between, event.PassesOn name around) → atRead.Receives graph written name
  goesOn : falls = true → (∀ event ∈ events, event.PassesOn name around) →
    after.reachable = true ∧ ∃ tests, after.Carries graph name (some ⟨written, around, tests⟩)

/-- What is carried from a node comes from it as taint. -/
theorem Environment.Carries.receives {graph : FlowGraph} {name : String} {written : Nat}
    {loops : List Nat} {tests : List (Nat × Bool)} {environment : Environment}
    (carries : environment.Carries graph name (some ⟨written, loops, tests⟩)) :
    environment.Receives graph written name := by
  obtain ⟨-, node, defined, hands⟩ := carries _ rfl
  exact ⟨node, defined, hands.taintPath⟩

namespace Tracked

/-- A write stays the last one while it is passed on. -/
theorem after_passed {name : String} {written : Nat} {around : List Nat}
    {tests : List (Nat × Bool)} {events : List Event}
    (passes : ∀ event ∈ events, event.PassesOn name around) :
    after name (some ⟨written, around, tests⟩) events =
      some ⟨written, around, tests ++ Event.tests events⟩ :=
  after_kept (fun event member => (passes event member).1) fun guard entry member isAround =>
    (passes _ member).2 guard entry rfl isAround

end Tracked

/-- Ways on which a write is kept track of deliver it. -/
theorem Tracks.delivers {graph : FlowGraph} {written : Nat} {name : String}
    {around loops : List Nat} {names : List String} {tests : List (Nat × Bool)}
    {events : List Event} {after : Environment} {falls : Bool}
    (tracks : Tracks graph name loops names (some ⟨written, around, tests⟩) events after falls) :
    Delivers graph written name around events after falls where
  reads between atRead later split passes := by
    have reads := tracks.reads
    rw [split] at reads
    have carries := (ReadsCarry.append_iff.1 reads).2.1 atRead rfl
    rw [Tracked.after_passed passes] at carries
    exact carries.receives
  goesOn isFalling passes := by
    have carries := tracks.carries isFalling
    rw [Tracked.after_passed passes] at carries
    exact ⟨tracks.live isFalling, _, carries⟩

namespace Delivers

variable {graph : FlowGraph} {written : Nat} {name : String} {around : List Nat}
  {first second events : List Event} {middle after : Environment} {falls : Bool}

/-- One way after another. -/
theorem append (delivers : Delivers graph written name around first middle true)
    (next : middle.reachable = true → (∃ tests,
      middle.Carries graph name (some ⟨written, around, tests⟩)) →
        Delivers graph written name around second after falls) :
    Delivers graph written name around (first ++ second) after falls where
  reads between atRead later split passes := by
    rcases List.append_eq_append_iff.1 split with ⟨more, rfl, isSecond⟩ | ⟨more, rfl, isLater⟩
    · obtain ⟨live, carries⟩ := delivers.goesOn rfl fun event member =>
        passes event (List.mem_append_left _ member)
      exact (next live carries).reads more atRead later isSecond fun event member =>
        passes event (List.mem_append_right _ member)
    · cases more with
      | nil =>
          rw [List.append_nil] at delivers
          obtain ⟨live, carries⟩ := delivers.goesOn rfl passes
          exact (next live carries).reads [] atRead later isLater.symm
            (fun _ member => nomatch member)
      | cons event more =>
          obtain ⟨rfl, -⟩ := List.cons.inj isLater
          exact delivers.reads between atRead more rfl passes
  goesOn isFalling passes := by
    obtain ⟨live, carries⟩ := delivers.goesOn rfl fun event member =>
      passes event (List.mem_append_left _ member)
    exact (next live carries).goesOn isFalling fun event member =>
      passes event (List.mem_append_right _ member)

/-- An event before a way that is no read. -/
theorem cons {event : Event} (silent : event.IsSilent)
    (next : event.PassesOn name around →
      Delivers graph written name around events after falls) :
    Delivers graph written name around (event :: events) after falls where
  reads between atRead later split passes := by
    cases between with
    | nil =>
        obtain ⟨rfl, -⟩ := List.cons.inj split
        exact silent.elim
    | cons first between =>
        obtain ⟨rfl, rest⟩ := List.cons.inj split
        obtain ⟨passesFirst, passes⟩ := List.forall_mem_cons.1 passes
        exact (next passesFirst).reads between atRead later rest passes
  goesOn isFalling passes := by
    obtain ⟨passesFirst, passes⟩ := List.forall_mem_cons.1 passes
    exact (next passesFirst).goesOn isFalling passes

/-- Behind a way that stops stands any environment. -/
theorem stopped (delivers : Delivers graph written name around events middle false) :
    Delivers graph written name around events after false :=
  ⟨delivers.reads, nofun⟩

/-- A way goes on in an environment that carries what the one behind it carries. -/
theorem meets (delivers : Delivers graph written name around events middle falls)
    (live : middle.reachable = true → after.reachable = true)
    (carries : middle.reachable = true → ∀ tracked,
      middle.Carries graph name tracked → after.Carries graph name tracked) :
    Delivers graph written name around events after falls where
  reads := delivers.reads
  goesOn isFalling passes := by
    obtain ⟨isLive, tests, carried⟩ := delivers.goesOn isFalling passes
    exact ⟨live isLive, tests, carries isLive _ carried⟩

/-- A handler that breaks a way off may have been entered after the variable was written. -/
theorem brokenOff {missed : List Event} {names : List String} {unbroken : Bool}
    (delivers : Delivers graph written name around (first ++ missed) middle unbroken)
    (isChanged : name ∈ names) :
    Delivers graph written name around (first ++ .caught names :: second) after falls where
  reads between atRead later split passes := by
    rcases List.append_eq_append_iff.1 split with ⟨more, rfl, isSecond⟩ | ⟨more, rfl, isLater⟩
    · cases more with
      | nil => exact nomatch (List.cons.inj isSecond).1
      | cons event more =>
          obtain ⟨rfl, -⟩ := List.cons.inj isSecond
          exact absurd isChanged (passes _ (List.mem_append_right _ List.mem_cons_self)).1
    · cases more with
      | nil => exact nomatch (List.cons.inj isLater).1
      | cons event more =>
          obtain ⟨rfl, -⟩ := List.cons.inj isLater
          exact delivers.reads between atRead (more ++ missed) (List.append_assoc _ _ _) passes
  goesOn _ passes :=
    absurd isChanged (passes _ (List.mem_append_right _ List.mem_cons_self)).1

end Delivers

namespace Environment

/-- The head of a loop defines the variables that are defined before the loop. -/
theorem Heads.defines_iff {graph : FlowGraph} {size : Nat} {names : List String}
    {before head atEnd : Environment} (heads : Heads graph size names before head atEnd)
    (name : String) :
    (∃ node, head.Defines name node) ↔ ∃ node, before.Defines name node := by
  by_cases defined : ∃ node, before.Defines name node
  · refine iff_of_true ?_ defined
    obtain ⟨node, defined⟩ := defined
    by_cases isWritten : name ∈ names
    · obtain ⟨joint, isJoint, -⟩ := heads.joined name isWritten node defined
      exact ⟨joint, isJoint⟩
    · exact ⟨node, (heads.kept name (.inl isWritten)).trans defined⟩
  · have undefined : before.definitions.get? name = none :=
      Option.eq_none_iff_forall_ne_some.2 fun node isNode => defined ⟨node, isNode⟩
    refine iff_of_false (fun ⟨node, isNode⟩ => defined ⟨node, ?_⟩) defined
    exact (heads.kept name (.inr undefined)).symm.trans isNode

end Environment

section Onward

variable {graph : FlowGraph} {place : Course} {around : List Nat} {written : Nat} {name : String}

/-- From the place on, taint is delivered from a node up to the end of the statements there. -/
def Course.DeliversFrom (place : Course) (graph : FlowGraph) (written : Nat) (name : String)
    (around : List Nat) : Prop :=
  ∀ (low high : Nat) (events : List Event) (falls : Bool), Course.Stands graph low place high →
    Course.Path around place events falls →
      Delivers graph written name around events place.atEnd falls

mutual

/-- What is delivered from a place on is delivered from the place on behind the statements around
it. -/
theorem Outline.Onward.delivers {outline : Outline} {loops : List Nat} {before after : Environment}
    {events : List Event} {falls : Bool} {low high : Nat} (isWritten : name ∈ place.writes)
    (atPlace : place.DeliversFrom graph written name around) :
    Outline.Onward place around loops outline before after events falls →
    Outline.Stands graph before low outline after high →
      Delivers graph written name around events after falls
  | .accepted onward, .branch _ _ standsAccepted _ _ _ _ joins =>
      (onward.delivers isWritten atPlace standsAccepted).meets (joins.live List.mem_cons_self)
        fun live _ => joins.carries List.mem_cons_self live
  | .rejected onward, .branch _ _ _ _ _ standsRejected _ joins =>
      have isEnd := List.mem_cons_of_mem _ List.mem_cons_self
      (onward.delivers isWritten atPlace standsRejected).meets (joins.live isEnd)
        fun live _ => joins.carries isEnd live
  | .again onward way, .loop _ heads isWriting whenTrue standsBody _ whenFalse => by
      have within := onward.within
      refine (onward.delivers isWritten atPlace standsBody).append fun live ⟨tests, carries⟩ =>
        .cons (by trivial) fun passes => ?_
      have defined := passes.2 _ _ rfl (within.1 List.mem_cons_self)
      have carriesHead := heads.carries_atEnd ((isWriting name).2 (within.2 isWritten)) defined live
        carries
      have liveHead := whenTrue.reachable.symm.trans (standsBody.live live)
      exact (Tracks.fromHead heads isWriting whenTrue whenFalse liveHead
        (fun way carries => Course.tracks _ standsBody (standsBody.live live) way carries) way
        carriesHead).delivers
  | .roundStopped onward, .loop _ _ _ _ standsBody _ _ =>
      (onward.delivers isWritten atPlace standsBody).stopped
  | .block onward, .block _ standsBody ends => by
      subst ends
      exact onward.delivers isWritten atPlace standsBody
  | .attempt onward last, .attempt _ standsBody _ _ _ joins _ standsFinal ends => by
      subst ends
      refine (onward.delivers isWritten atPlace standsBody).append fun live ⟨tests, carries⟩ => ?_
      exact (Course.tracks _ standsFinal (joins.live List.mem_cons_self live) last
        (joins.carries List.mem_cons_self live carries)).delivers
  | .attemptStopped onward, .attempt _ standsBody _ _ _ _ _ _ _ =>
      (onward.delivers isWritten atPlace standsBody).stopped
  | .brokenOff _ onward _ _, .attempt _ standsBody _ _ _ _ _ _ _
  | .brokenOffStopped _ onward _, .attempt _ standsBody _ _ _ _ _ _ _ =>
      (onward.delivers isWritten atPlace standsBody).brokenOff (onward.within.2 isWritten)
  | .handler isHandler onward last, .attempt _ _ _ _ standHandlers joins _ standsFinal ends => by
      subst ends
      obtain ⟨-, _, _, -, -, standsHandler⟩ := standHandlers.of_mem isHandler
      have isEnd := HandlerCourse.atEnd_mem isHandler
      refine (onward.delivers isWritten atPlace standsHandler).append fun live ⟨tests, carries⟩ => ?_
      exact (Course.tracks _ standsFinal (joins.live (isEnd _) live) last
        (joins.carries (isEnd _) live carries)).delivers
  | .handlerStopped isHandler onward, .attempt _ _ _ _ standHandlers _ _ _ _ => by
      obtain ⟨-, _, _, -, -, standsHandler⟩ := standHandlers.of_mem isHandler
      exact (onward.delivers isWritten atPlace standsHandler).stopped
  | .final onward, .attempt _ _ _ _ _ _ _ standsFinal ends => by
      subst ends
      exact onward.delivers isWritten atPlace standsFinal

theorem Course.Onward.delivers {course : Course} {loops : List Nat} {events : List Event}
    {falls : Bool} {low high : Nat} (isWritten : name ∈ place.writes)
    (atPlace : place.DeliversFrom graph written name around) :
    Course.Onward place around loops course events falls →
    Course.Stands graph low course high →
      Delivers graph written name around events course.atEnd falls
  | .here way, stands => atPlace _ _ _ _ stands way
  | .later onward, .step _ _ standsRest => by
      have delivers := onward.delivers isWritten atPlace standsRest
      exact delivers
  | .inside onward way, .step _ standsFirst standsRest => by
      refine (onward.delivers isWritten atPlace standsFirst).append fun live ⟨tests, carries⟩ => ?_
      have tracks := Course.tracks _ standsRest live way carries
      exact tracks.delivers
  | .stopped onward, .step _ standsFirst _ =>
      (onward.delivers isWritten atPlace standsFirst).stopped

end

/-- From a loop on, what a variable holds at the end of the body is delivered, where the loop writes
the variable and it had a definition before. -/
theorem Course.deliversFrom_loop {before head : Environment} {test : Expr} {guard : Nat}
    {body rest : Course} (isWritten : name ∈ body.writes)
    (defined : ∃ node, before.Defines name node) (live : body.atEnd.reachable = true)
    (atEnd : body.atEnd.Defines name written) (around : List Nat) :
    Course.DeliversFrom (.step before (.loop test guard head body) rest) graph written name
      around := by
  intro low high events falls stands way
  obtain ⟨tests, passes⟩ := graph.exists_passes written
  have carriesEnd : body.atEnd.Carries graph name (some ⟨written, around, tests⟩) := by
    intro last isLast
    rw [← Option.some.inj isLast]
    exact ⟨passes, written, atEnd, .refl⟩
  cases stands with
  | step _ standsLoop standsRest =>
      cases standsLoop with
      | loop _ heads isWriting whenTrue standsBody _ whenFalse =>
          have liveHead := whenTrue.reachable.symm.trans (standsBody.live live)
          have carries := heads.carries_atEnd ((isWriting name).2 isWritten) defined live carriesEnd
          have through {events : List Event} {falls : Bool}
              (way : Outline.Path around (.loop test guard head body) before rest.start events
                falls) :=
            Tracks.fromHead heads isWriting whenTrue whenFalse liveHead (fun way carries =>
              Course.tracks body standsBody (standsBody.live live) way carries) way carries
          cases way with
          | step way later =>
              refine (through way).delivers.append fun live ⟨tests, carries⟩ => ?_
              have tracks := Course.tracks rest standsRest live later carries
              exact tracks.delivers
          | stopped way => exact (through way).delivers.stopped

end Onward

/-- The decoding of a path until no escape is left, and what follows it. -/
def DecodingLoop.loop : Course :=
  .step (environment 1)
    (.loop (.methodCall (.variable "path") "contains" [.literal "%"]) 0 (environment 2)
      (.step (environment 5) (.assign "path" (.localCall "decode" [.variable "path"]))
        (.done (environment 7))))
    (.step (environment 8) (.evaluate (.localCall "forward" [.variable "path"]))
      (.done (environment 8)))

namespace FlowGraph

/-- What a loop writes to a variable that has a definition before the loop comes, from the end of the
body, to each read that control comes to from the head of the loop, while the variable is kept: to
the reads of later rounds and to those behind the loop.  Where control comes to the head of a loop
around it, the variable must have had a definition before that loop too.  The head of a loop defines
just the variables that are defined before it, so a first definition in the body is not known in
later rounds. -/
theorem build_hands_loop_writes_on {catalog : Catalog} {unitConstants : StringMap String}
    {procedure : Procedure} {graph : FlowGraph}
    (built : build catalog unitConstants procedure = .ok graph) :
    ∃ course, outline catalog unitConstants procedure = .ok (course, graph) ∧
      course.Shows procedure.body ∧
      ∀ (before head : Environment) (test : Expr) (guard : Nat) (body rest : Course)
        (name : String), course.Has (.step before (.loop test guard head body) rest) →
        ((∃ node, head.Defines name node) ↔ ∃ node, before.Defines name node) ∧
        ∀ (written : Nat) (around : List Nat) (between later : List Event) (atRead : Environment)
          (falls : Bool), name ∈ body.writes → (∃ node, before.Defines name node) →
          body.atEnd.reachable = true → body.atEnd.Defines name written →
          Course.Onward (.step before (.loop test guard head body) rest) around [] course
            (between ++ .read atRead name :: later) falls →
          (∀ event ∈ between, event.Keeps name) →
          (∀ guard entry, .again guard entry ∈ between → guard ∈ around →
            ∃ node, entry.Defines name node) →
          ∃ read, (∀ draft : Draft, draft.depth < maxNesting →
              (Build.lower ⟨catalog, unitConstants, procedure⟩ atRead (.variable name)).run draft =
                .ok (read, draft)) ∧
            graph.TaintPath written read := by
  obtain ⟨course, outlined, isOutlined⟩ := isOutlined_of_build built
  refine ⟨course, outlined, isOutlined.shows, ?_⟩
  intro before head test guard body rest name has
  obtain ⟨low, high, stands⟩ := isOutlined.stands
  obtain ⟨first, last, -, -, standsPlace⟩ := stands.of_has has
  refine ⟨?_, ?_⟩
  · cases standsPlace with
    | step _ standsLoop _ =>
        cases standsLoop with
        | loop _ heads => exact heads.defines_iff name
  · intro written around between later atRead falls isWritten defined live atEnd onward keeps entered
    have delivers := onward.delivers (List.mem_append_left _ isWritten)
      (Course.deliversFrom_loop isWritten defined live atEnd around) stands
    obtain ⟨read, held, path⟩ := delivers.reads between atRead later rfl fun event member =>
      ⟨keeps event member, fun guard entry same => entered guard entry (same ▸ member)⟩
    exact ⟨read, fun _ => Build.lower_variable _ held, path⟩

/-- The path that a round decodes comes to the head, and from there behind the loop. -/
theorem build_hands_decoded_path_behind :
    build DecodingLoop.catalog .empty DecodingLoop.procedure = .ok DecodingLoop.graph ∧
    DecodingLoop.course.Has DecodingLoop.loop ∧
    Course.Onward DecodingLoop.loop [] [] DecodingLoop.course
      ([.read (DecodingLoop.environment 2) "path", .test 0 false] ++
        .read (DecodingLoop.environment 8) "path" :: []) true ∧
    DecodingLoop.graph.TaintPath 7 8 := by
  have onward : Course.Onward DecodingLoop.loop [] [] DecodingLoop.course
      ([.read (DecodingLoop.environment 2) "path", .test 0 false] ++
        .read (DecodingLoop.environment 8) "path" :: []) true :=
    .later (.here (.step (.loopLeft (List.forall_mem_nil _)) (.step .evaluate .done)))
  obtain ⟨course, outlined, -, hands⟩ := build_hands_loop_writes_on DecodingLoop.build_eq
  obtain ⟨rfl, -⟩ := Prod.mk.inj (Except.ok.inj (outlined.symm.trans DecodingLoop.outline_eq))
  have has : DecodingLoop.course.Has DecodingLoop.loop := .later .here
  refine ⟨DecodingLoop.build_eq, has, onward, ?_⟩
  obtain ⟨-, delivers⟩ := hands _ _ _ _ _ _ "path" has
  obtain ⟨read, isRead, path⟩ := delivers 7 [] _ _ _ _ (List.mem_singleton_self _) ⟨1, rfl⟩ rfl rfl
    onward (by simp [Event.Keeps]) (fun _ _ _ member => nomatch member)
  have shallow : Draft.empty.depth < maxNesting := by decide
  have lowered := isRead .empty shallow
  have held := Build.lower_variable ⟨DecodingLoop.catalog, .empty, DecodingLoop.procedure⟩
    (show (DecodingLoop.environment 8).Defines "path" 8 from rfl) shallow
  obtain ⟨rfl, -⟩ := Prod.mk.inj (Except.ok.inj (held.symm.trans lowered))
  exact path

end FlowGraph

/-! A procedure that asks for a path until it has one, and forwards to it. -/

namespace AwaitedPath

def procedure : Procedure :=
  { Procedure.named "serve" with
    body := [
      .loop (.localCall "waits" [])
        [.assign "path" (.localCall "getParameter" []) .zero] .zero,
      .evaluate (.localCall "forward" [.variable "path"]) .zero] }

def graph : FlowGraph where
  procedureName := "serve"
  nodes := #[
    ⟨.call, "waits()", .zero, none⟩,
    ⟨.sourceCall, "getParameter()", .zero, none⟩,
    ⟨.variableRef, "path = getParameter()", .zero, some "path"⟩,
    ⟨.variableRef, "path", .zero, some "path"⟩,
    ⟨.sinkCall [0], "forward(path)", .zero, none⟩]
  edges := [⟨3, 4, .plain (.argument 0)⟩, ⟨1, 2, .plain .assign⟩]
  guards := #[⟨0, "waits()", .zero, [], [], [], none⟩]
  sources := [1]
  sinks := [4]

def round : Course :=
  .step .entry (.assign "path" (.localCall "getParameter" []))
    (.done ⟨StringMap.empty.insert "path" 2, .empty, true⟩)

/-- The construction knows no path at the head of the loop, and none behind it. -/
def course : Course :=
  .step .entry (.loop (.localCall "waits" []) 0 .entry round)
    (.step .entry (.evaluate (.localCall "forward" [.variable "path"])) (.done .entry))

theorem outline_eq :
    FlowGraph.outline DecodingLoop.catalog .empty procedure = .ok (course, graph) := by
  cbv

/-- The path that is forwarded behind the loop is the one that the last round asked for, but no taint
comes from there to the sink. -/
theorem forward_misses_last_round :
    FlowGraph.outline DecodingLoop.catalog .empty procedure = .ok (course, graph) ∧
    "path" ∈ round.writes ∧ round.atEnd.reachable = true ∧ round.atEnd.Defines "path" 2 ∧
    Course.Onward course [] [] course ([.test 0 false] ++ .read .entry "path" :: []) true ∧
    graph.sinkArguments 4 = [3] ∧ ¬graph.TaintPath 2 3 := by
  refine ⟨outline_eq, List.mem_singleton_self _, rfl, rfl, ?_, by decide, fun path => ?_⟩
  · exact .here (.step (.loopLeft (List.forall_mem_nil _)) (.step .evaluate .done))
  · rcases Relation.ReflTransGen.cases_head path with same | ⟨next, step, -⟩
    · exact absurd same (by decide)
    · obtain ⟨edge, member, starts, -⟩ := step
      have others : ∀ edge ∈ graph.edges, edge.source ≠ 2 := by decide
      exact others edge member starts

end AwaitedPath

end ForwardTaint
