import ForwardTaint.Proofs.OutlineConstruction

/-!
Ways of control through a procedure, and what becomes of written values on them.  On a way the last
write of a variable is kept track of, with the tests since then; wherever the variable is read, the
graph hands the written value on to the node that is read.
-/

namespace ForwardTaint

/-- What happens on a way of control.  A write stands inside the loops of some guards; control comes
to the head of a loop again with the environment before the loop; what is caught may have been
thrown after writes of some variables. -/
inductive Event where
  | read (environment : Environment) (name : String)
  | write (name : String) (after : Environment) (loops : List Nat)
  | forget (name : String)
  | test (guard : Nat) (outcome : Bool)
  | again (guard : Nat) (entry : Environment)
  | caught (names : List String)

namespace Event

/-- The reads of an expression. -/
def reads (environment : Environment) (expr : Expr) : List Event :=
  expr.reads.map (.read environment)

/-- The outcomes of tests. -/
def tests (events : List Event) : List (Nat × Bool) :=
  events.filterMap fun
    | .test guard outcome => some (guard, outcome)
    | _ => none

/-- The variables that are given a value or lose it. -/
def changed (events : List Event) : List String :=
  events.filterMap fun
    | .write name _ _ | .forget name => some name
    | _ => none

/-- The event neither reads a variable nor gives it a value. -/
def IsSilent : Event → Prop
  | .read _ _ | .write _ _ _ => False
  | _ => True

end Event

/-- The events up to where a handler starts when it breaks off a way: the variable of what it catches
has no value there. -/
def HandlerCourse.entered (handler : HandlerCourse) (broken : List Event) : List Event :=
  broken ++ .caught (Event.changed broken) :: handler.parameter.toList.map .forget

/-- The events of rounds of a loop, each of which ends at the head of the loop. -/
def loopEvents (test : Expr) (guard : Nat) (before head : Environment)
    (rounds : List (List Event)) : List Event :=
  rounds.flatMap fun round =>
    Event.reads head test ++ .test guard true :: (round ++ [.again guard before])

mutual

/-- The events on a way through a statement inside some loops, and whether control goes on behind
it.  Handlers start after any event of the body; a way that leaves an attempt by a return or past
its handlers is not followed into the final block. -/
inductive Outline.Path : List Nat → Outline → Environment → Environment → List Event → Bool → Prop
  | evaluate {loops : List Nat} {expr : Expr} {before after : Environment} :
      Outline.Path loops (.evaluate expr) before after (Event.reads before expr) true
  | assign {loops : List Nat} {name : String} {value : Expr} {before after : Environment} :
      Outline.Path loops (.assign name value) before after
        (Event.reads before value ++ [.write name after loops]) true
  | forget {loops : List Nat} {name : String} {before after : Environment} :
      Outline.Path loops (.forget name) before after [.forget name] true
  | accepted {loops : List Nat} {test : Expr} {guard : Nat} {accepted rejected : Course}
      {before after : Environment} {events : List Event} {falls : Bool}
      (way : Course.Path loops accepted events falls) :
      Outline.Path loops (.branch test guard accepted rejected) before after
        (Event.reads before test ++ .test guard true :: events) falls
  | rejected {loops : List Nat} {test : Expr} {guard : Nat} {accepted rejected : Course}
      {before after : Environment} {events : List Event} {falls : Bool}
      (way : Course.Path loops rejected events falls) :
      Outline.Path loops (.branch test guard accepted rejected) before after
        (Event.reads before test ++ .test guard false :: events) falls
  | loopLeft {loops : List Nat} {test : Expr} {guard : Nat} {body : Course}
      {before head after : Environment} {rounds : List (List Event)}
      (ways : ∀ round ∈ rounds, Course.Path (guard :: loops) body round true) :
      Outline.Path loops (.loop test guard head body) before after
        (loopEvents test guard before head rounds ++
          (Event.reads head test ++ [.test guard false])) true
  | loopStopped {loops : List Nat} {test : Expr} {guard : Nat} {body : Course}
      {before head after : Environment} {rounds : List (List Event)} {events : List Event}
      (ways : ∀ round ∈ rounds, Course.Path (guard :: loops) body round true)
      (last : Course.Path (guard :: loops) body events false) :
      Outline.Path loops (.loop test guard head body) before after
        (loopEvents test guard before head rounds ++
          (Event.reads head test ++ .test guard true :: events)) false
  | block {loops : List Nat} {body : Course} {before after : Environment} {events : List Event}
      {falls : Bool} (way : Course.Path loops body events falls) :
      Outline.Path loops (.block body) before after events falls
  | attempt {loops : List Nat} {body final : Course} {handlers : List HandlerCourse}
      {before start after : Environment} {first second : List Event} {falls : Bool}
      (way : Course.Path loops body first true) (last : Course.Path loops final second falls) :
      Outline.Path loops (.attempt body start handlers final) before after (first ++ second) falls
  | attemptStopped {loops : List Nat} {body final : Course} {handlers : List HandlerCourse}
      {before start after : Environment} {events : List Event}
      (way : Course.Path loops body events false) :
      Outline.Path loops (.attempt body start handlers final) before after events false
  | handled {loops : List Nat} {body final : Course} {handlers : List HandlerCourse}
      {handler : HandlerCourse} {before start after : Environment}
      {first missed second third : List Event} {unbroken falls : Bool}
      (isHandler : handler ∈ handlers) (way : Course.Path loops body (first ++ missed) unbroken)
      (handles : Course.Path loops handler.course second true)
      (last : Course.Path loops final third falls) :
      Outline.Path loops (.attempt body start handlers final) before after
        (handler.entered first ++ (second ++ third)) falls
  | handlerStopped {loops : List Nat} {body final : Course} {handlers : List HandlerCourse}
      {handler : HandlerCourse} {before start after : Environment}
      {first missed second : List Event} {unbroken : Bool}
      (isHandler : handler ∈ handlers) (way : Course.Path loops body (first ++ missed) unbroken)
      (handles : Course.Path loops handler.course second false) :
      Outline.Path loops (.attempt body start handlers final) before after
        (handler.entered first ++ second) false
  | return {loops : List Nat} {value : Option Expr} {before after : Environment} :
      Outline.Path loops (.return value) before after
        (value.toList.flatMap (Event.reads before)) false

/-- The events on a way through statements, and whether control goes on behind them. -/
inductive Course.Path : List Nat → Course → List Event → Bool → Prop
  | done {loops : List Nat} {environment : Environment} :
      Course.Path loops (.done environment) [] true
  | step {loops : List Nat} {before : Environment} {outline : Outline} {rest : Course}
      {first second : List Event} {falls : Bool}
      (way : Outline.Path loops outline before rest.start first true)
      (later : Course.Path loops rest second falls) :
      Course.Path loops (.step before outline rest) (first ++ second) falls
  | stopped {loops : List Nat} {before : Environment} {outline : Outline} {rest : Course}
      {events : List Event} (way : Outline.Path loops outline before rest.start events false) :
      Course.Path loops (.step before outline rest) events false

end

/-- The last write of a variable: the node that held the variable behind it, the loops around it,
and the outcomes of tests since then. -/
structure Tracked where
  node : Nat
  loops : List Nat
  tests : List (Nat × Bool)

/-- The last write after one more event.  It is lost when the variable loses its value, when a
handler starts from before it, and when control comes to the head of a loop around it before which
the variable had no value. -/
def Event.track (name : String) (tracked : Option Tracked) : Event → Option Tracked
  | .read _ _ => tracked
  | .write other after loops =>
      if other = name then (after.definitions.get? name).map fun node => ⟨node, loops, []⟩
      else tracked
  | .forget other => if other = name then none else tracked
  | .test guard outcome =>
      tracked.map fun tracked => { tracked with tests := tracked.tests ++ [(guard, outcome)] }
  | .again guard entry =>
      tracked.filter fun tracked =>
        !tracked.loops.contains guard || entry.definitions.contains name
  | .caught names => if name ∈ names then none else tracked

/-- The last write after more events. -/
def Tracked.after (name : String) (tracked : Option Tracked) (events : List Event) :
    Option Tracked :=
  events.foldl (Event.track name) tracked

namespace Tracked

theorem after_append (name : String) (tracked : Option Tracked) (first second : List Event) :
    after name tracked (first ++ second) = after name (after name tracked first) second :=
  List.foldl_append

theorem after_cons (name : String) (tracked : Option Tracked) (event : Event)
    (events : List Event) :
    after name tracked (event :: events) = after name (event.track name tracked) events := rfl

/-- Reads change nothing. -/
theorem after_reads (name : String) (tracked : Option Tracked) (environment : Environment)
    (expr : Expr) : after name tracked (Event.reads environment expr) = tracked := by
  unfold Event.reads
  induction expr.reads with
  | nil => rfl
  | cons first rest inductionHypothesis => exact inductionHypothesis

/-- A write is the last one because it was so before, with fewer tests, or because it happened. -/
theorem origin {name : String} {tracked : Option Tracked} {events : List Event} {last : Tracked}
    (isLast : after name tracked events = some last) :
    (∃ earlier, tracked = some earlier ∧ last.node = earlier.node ∧ last.loops = earlier.loops ∧
      earlier.tests ⊆ last.tests) ∨
      ∃ environment, .write name environment last.loops ∈ events := by
  induction events generalizing tracked with
  | nil => exact .inl ⟨last, isLast, rfl, rfl, fun _ => id⟩
  | cons event events inductionHypothesis =>
      rcases inductionHypothesis isLast with
        ⟨middle, isMiddle, node, loops, tests⟩ | ⟨environment, member⟩
      · cases event with
        | read environment other => exact .inl ⟨middle, isMiddle, node, loops, tests⟩
        | write other environment around =>
            simp only [Event.track] at isMiddle
            split at isMiddle
            · rename_i same
              subst same
              obtain ⟨number, -, rfl⟩ := Option.map_eq_some_iff.1 isMiddle
              exact .inr ⟨environment, loops ▸ List.mem_cons_self⟩
            · exact .inl ⟨middle, isMiddle, node, loops, tests⟩
        | forget other =>
            simp only [Event.track] at isMiddle
            split at isMiddle
            · exact nomatch isMiddle
            · exact .inl ⟨middle, isMiddle, node, loops, tests⟩
        | test guard outcome =>
            obtain ⟨earlier, isEarlier, rfl⟩ := Option.map_eq_some_iff.1 isMiddle
            exact .inl ⟨earlier, isEarlier, node, loops,
              fun _ member => tests (List.mem_append_left _ member)⟩
        | again guard entry =>
            obtain ⟨isEarlier, -⟩ := Option.filter_eq_some_iff.1 isMiddle
            exact .inl ⟨middle, isEarlier, node, loops, tests⟩
        | caught names =>
            simp only [Event.track] at isMiddle
            split at isMiddle
            · exact nomatch isMiddle
            · exact .inl ⟨middle, isMiddle, node, loops, tests⟩
      · exact .inr ⟨environment, List.mem_cons_of_mem _ member⟩

end Tracked

/-- The graph hands the value of the last write on to the node that holds the variable. -/
def Environment.Carries (environment : Environment) (graph : FlowGraph) (name : String)
    (tracked : Option Tracked) : Prop :=
  ∀ last, tracked = some last → graph.Passes last.tests last.node ∧
    ∃ node, environment.Defines name node ∧ graph.HandsOn last.tests last.node node

/-- At each read of the variable the graph hands on what was written last. -/
def ReadsCarry (graph : FlowGraph) (name : String) : Option Tracked → List Event → Prop
  | _, [] => True
  | tracked, event :: rest =>
      (∀ environment, event = .read environment name → environment.Carries graph name tracked) ∧
        ReadsCarry graph name (event.track name tracked) rest

namespace Environment

variable {graph : FlowGraph} {name : String} {tracked : Option Tracked} {before after : Environment}

theorem carries_none (environment : Environment) (graph : FlowGraph) (name : String) :
    environment.Carries graph name none := nofun

/-- What is carried is carried after more tests too. -/
theorem Carries.mono (carries : before.Carries graph name tracked) {earlier last : Tracked}
    (isEarlier : tracked = some earlier) (node : last.node = earlier.node)
    (tests : earlier.tests ⊆ last.tests) : before.Carries graph name (some last) := by
  intro other same
  obtain rfl := Option.some.inj same
  obtain ⟨passes, number, defined, hands⟩ := carries earlier isEarlier
  rw [node]
  exact ⟨passes.mono tests, number, defined, hands.mono tests⟩

/-- Environments in which the same node holds a variable carry the same. -/
theorem Carries.congr (carries : before.Carries graph name tracked)
    (same : after.definitions.get? name = before.definitions.get? name) :
    after.Carries graph name tracked := by
  intro last isLast
  obtain ⟨passes, node, defined, hands⟩ := carries last isLast
  exact ⟨passes, node, same.trans defined, hands⟩

/-- A test hands values on to the nodes of its outcome. -/
theorem Refines.carries {size guard : Nat} {outcome : Bool}
    (refines : before.Refines graph size guard outcome after)
    (carries : before.Carries graph name tracked) :
    after.Carries graph name ((Event.test guard outcome).track name tracked) := by
  intro last isLast
  obtain ⟨earlier, isEarlier, rfl⟩ := Option.map_eq_some_iff.1 isLast
  obtain ⟨passes, node, defined, hands⟩ := carries earlier isEarlier
  obtain ⟨node', defined', hands'⟩ := refines.hands name node defined
  refine ⟨passes.mono (List.subset_append_left _ _), node', defined', ?_⟩
  exact (hands.mono (List.subset_append_left _ _)).trans (hands'.mono (List.subset_append_right _ _))

/-- Where ways meet, the values of each way that control comes on are handed on. -/
theorem Joins.hands {size : Nat} {environments : List Environment}
    (joins : Joins graph size environments after) (member : before ∈ environments)
    (live : before.reachable = true) {node : Nat} (defined : before.Defines name node) :
    ∃ node', after.Defines name node' ∧ graph.HandsOn [] node node' := by
  have isSource : node ∈ sources (meeting environments) name := by
    refine mem_sources.2 ⟨before, ?_, defined⟩
    have isLive := List.mem_filter.2 ⟨member, live⟩
    unfold meeting
    split
    · rename_i none
      rw [none] at isLive
      exact nomatch isLive
    · exact isLive
  obtain ⟨node', defined'⟩ := joins.defined name (List.ne_nil_of_mem isSource)
  refine ⟨node', defined', ?_⟩
  rcases joins.node name node' defined' with only | ⟨-, passes, edges⟩
  · rw [(only node).1 isSource]
    exact .refl
  · have edge := (edges node (.plain .join)).2 ⟨rfl, isSource⟩
    exact .single ⟨passes, _, edge, rfl, rfl, .inr (.inl rfl)⟩

theorem Joins.carries {size : Nat} {environments : List Environment}
    (joins : Joins graph size environments after) (member : before ∈ environments)
    (live : before.reachable = true) (carries : before.Carries graph name tracked) :
    after.Carries graph name tracked := by
  intro last isLast
  obtain ⟨passes, node, defined, hands⟩ := carries last isLast
  obtain ⟨node', defined', hands'⟩ := joins.hands member live defined
  exact ⟨passes, node', defined', hands.trans (hands'.mono (List.nil_subset _))⟩

theorem Joins.live {size : Nat} {environments : List Environment}
    (joins : Joins graph size environments after) (member : before ∈ environments)
    (live : before.reachable = true) : after.reachable = true := by
  rw [joins.reachable, List.any_eq_true]
  exact ⟨before, member, live⟩

/-- The head of a loop carries what was carried before the loop. -/
theorem Heads.carries {size : Nat} {names : List String} {head atEnd : Environment}
    (heads : Heads graph size names before head atEnd) (carries : before.Carries graph name tracked) :
    head.Carries graph name tracked := by
  intro last isLast
  obtain ⟨passes, node, defined, hands⟩ := carries last isLast
  by_cases isJoined : name ∈ names
  · obtain ⟨joint, isJoint, -, joins, -⟩ := heads.joined name isJoined node defined
    exact ⟨passes, joint, isJoint, hands.tail ⟨joins.1.mono (List.nil_subset _), joins.2⟩⟩
  · exact ⟨passes, node, (heads.kept name (.inl isJoined)).trans defined, hands⟩

/-- Where a loop writes a variable that was defined before it, the head carries what the end of the
body carries. -/
theorem Heads.carries_atEnd {size : Nat} {names : List String} {head atEnd : Environment}
    (heads : Heads graph size names before head atEnd) (isWritten : name ∈ names)
    (defined : ∃ node, before.Defines name node) (live : atEnd.reachable = true)
    (carries : atEnd.Carries graph name tracked) : head.Carries graph name tracked := by
  intro last isLast
  obtain ⟨passes, node, atLast, hands⟩ := carries last isLast
  obtain ⟨entry, isEntry⟩ := defined
  obtain ⟨joint, isJoint, -, -, back, -⟩ := heads.joined name isWritten entry isEntry
  refine ⟨passes, joint, isJoint, ?_⟩
  rcases back live node atLast with rfl | ⟨joins, edge⟩
  · exact hands
  · exact hands.tail ⟨joins.mono (List.nil_subset _), edge⟩

/-- A written value is carried from its own node on. -/
theorem Assigns.carries {other : String} {loops : List Nat}
    (assigns : before.Assigns graph other after) (carries : before.Carries graph name tracked) :
    after.Carries graph name ((Event.write other after loops).track name tracked) := by
  simp only [Event.track]
  split
  · rename_i same
    subst same
    intro last isLast
    obtain ⟨node, isDefined, passes⟩ := assigns.node
    obtain ⟨number, defined, rfl⟩ := Option.map_eq_some_iff.1 isLast
    obtain rfl := Option.some.inj (defined.symm.trans isDefined)
    exact ⟨passes, number, defined, .refl⟩
  · rename_i different
    exact carries.congr (assigns.others name (Ne.symm different))

theorem Carries.forget (carries : before.Carries graph name tracked) (other : String) :
    (before.forget other).Carries graph name ((Event.forget other).track name tracked) := by
  simp only [Event.track]
  split
  · exact carries_none _ _ _
  · rename_i different
    refine carries.congr ?_
    unfold Environment.forget
    rw [StringMap.get?_erase, if_neg (Ne.symm different)]

end Environment

namespace ReadsCarry

variable {graph : FlowGraph} {name : String} {tracked : Option Tracked}

theorem append_iff {first second : List Event} :
    ReadsCarry graph name tracked (first ++ second) ↔
      ReadsCarry graph name tracked first ∧
        ReadsCarry graph name (Tracked.after name tracked first) second := by
  induction first generalizing tracked with
  | nil => exact (and_iff_right trivial).symm
  | cons event first inductionHypothesis =>
      rw [List.cons_append, ReadsCarry, ReadsCarry, inductionHypothesis, Tracked.after_cons,
        and_assoc]

theorem reads {environment : Environment} (carries : environment.Carries graph name tracked)
    (expr : Expr) : ReadsCarry graph name tracked (Event.reads environment expr) := by
  unfold Event.reads
  induction expr.reads with
  | nil => trivial
  | cons first rest inductionHypothesis =>
      refine ⟨fun other same => ?_, inductionHypothesis⟩
      injection same with sameEnvironment
      exact sameEnvironment ▸ carries

end ReadsCarry

/-- On the way inside some loops the graph hands on what is written, only some variables are written,
and the environment behind the way carries the last write. -/
structure Tracks (graph : FlowGraph) (name : String) (loops : List Nat) (names : List String)
    (tracked : Option Tracked) (events : List Event) (after : Environment) (falls : Bool) :
    Prop where
  reads : ReadsCarry graph name tracked events
  writes : ∀ other atWrite around, .write other atWrite around ∈ events →
    other ∈ names ∧ loops ⊆ around ∧ ∃ node, atWrite.Defines other node
  live : falls = true → after.reachable = true
  carries : falls = true → after.Carries graph name (Tracked.after name tracked events)

namespace Tracks

variable {graph : FlowGraph} {name : String} {loops : List Nat} {names : List String}
  {tracked : Option Tracked} {before after : Environment} {events : List Event} {falls : Bool}

/-- One way after another. -/
theorem append {middle : Environment} {first second : List Event} {names' : List String}
    {passes : Bool} (tracks : Tracks graph name loops names tracked first middle passes)
    (tracks' : Tracks graph name loops names' (Tracked.after name tracked first) second after falls)
    {all : List String} (within : names ⊆ all) (within' : names' ⊆ all) :
    Tracks graph name loops all tracked (first ++ second) after falls where
  reads := ReadsCarry.append_iff.2 ⟨tracks.reads, tracks'.reads⟩
  writes other atWrite around member := by
    rcases List.mem_append.1 member with member | member
    · obtain ⟨written, inside⟩ := tracks.writes other atWrite around member
      exact ⟨within written, inside⟩
    · obtain ⟨written, inside⟩ := tracks'.writes other atWrite around member
      exact ⟨within' written, inside⟩
  live := tracks'.live
  carries isFalling := by
    rw [Tracked.after_append]
    exact tracks'.carries isFalling

/-- A silent event before a way. -/
theorem cons {event : Event} (silent : event.IsSilent)
    (tracks : Tracks graph name loops names (event.track name tracked) events after falls) :
    Tracks graph name loops names tracked (event :: events) after falls where
  reads := by
    refine ⟨fun environment same => ?_, tracks.reads⟩
    rw [same] at silent
    exact silent.elim
  writes other atWrite around member := by
    rcases List.mem_cons.1 member with same | later
    · rw [← same] at silent
      exact silent.elim
    · exact tracks.writes other atWrite around later
  live := tracks.live
  carries := tracks.carries

/-- The reads of an expression before a way. -/
theorem afterReads (carries : before.Carries graph name tracked) (expr : Expr)
    (tracks : Tracks graph name loops names tracked events after falls) :
    Tracks graph name loops names tracked (Event.reads before expr ++ events) after falls where
  reads := ReadsCarry.append_iff.2
    ⟨.reads carries expr, by rw [Tracked.after_reads]; exact tracks.reads⟩
  writes other atWrite around member := by
    rcases List.mem_append.1 member with member | member
    · obtain ⟨_, -, same⟩ := List.mem_map.1 member
      exact nomatch same
    · exact tracks.writes other atWrite around member
  live := tracks.live
  carries isFalling := by
    rw [Tracked.after_append, Tracked.after_reads]
    exact tracks.carries isFalling

theorem nil (live : after.reachable = true) (carries : after.Carries graph name tracked) :
    Tracks graph name loops [] tracked [] after true where
  reads := trivial
  writes _ _ _ member := absurd member List.not_mem_nil
  live _ := live
  carries _ := carries

theorem nil_stopped : Tracks graph name loops [] tracked [] after false where
  reads := trivial
  writes _ _ _ member := absurd member List.not_mem_nil
  live := nofun
  carries := nofun

/-- A way goes on in an environment that carries what the one behind it carries. -/
theorem meets {atEnd : Environment}
    (tracks : Tracks graph name loops names tracked events after falls)
    (goesOn : after.reachable = true →
      after.Carries graph name (Tracked.after name tracked events) →
      atEnd.reachable = true ∧ atEnd.Carries graph name (Tracked.after name tracked events)) :
    Tracks graph name loops names tracked events atEnd falls where
  reads := tracks.reads
  writes := tracks.writes
  live isFalling := (goesOn (tracks.live isFalling) (tracks.carries isFalling)).1
  carries isFalling := (goesOn (tracks.live isFalling) (tracks.carries isFalling)).2

/-- Behind a way that stops stands any environment. -/
theorem stopped {other : Environment}
    (tracks : Tracks graph name loops names tracked events after false) :
    Tracks graph name loops names tracked events other false where
  reads := tracks.reads
  writes := tracks.writes
  live := nofun
  carries := nofun

theorem widen (tracks : Tracks graph name loops names tracked events after falls)
    {all : List String} (within : names ⊆ all) :
    Tracks graph name loops all tracked events after falls where
  reads := tracks.reads
  writes other atWrite around member := by
    obtain ⟨written, inside⟩ := tracks.writes other atWrite around member
    exact ⟨within written, inside⟩
  live := tracks.live
  carries := tracks.carries

/-- A way inside a loop is a way inside the loops around it. -/
theorem outer {guard : Nat}
    (tracks : Tracks graph name (guard :: loops) names tracked events after falls) :
    Tracks graph name loops names tracked events after falls where
  reads := tracks.reads
  writes other atWrite around member := by
    obtain ⟨written, inside, defined⟩ := tracks.writes other atWrite around member
    exact ⟨written, fun _ isOuter => inside (List.mem_cons_of_mem _ isOuter), defined⟩
  live := tracks.live
  carries := tracks.carries

/-- A handler starts from before the way that it breaks off: what was written last on the way does not
count, nor does the variable of what is caught. -/
theorem entered {first missed : List Event} {unbroken : Bool}
    (tracks : Tracks graph name loops names tracked (first ++ missed) after unbroken)
    (carries : before.Carries graph name tracked) {start : Environment} {handler : HandlerCourse}
    (live : start.reachable = true)
    (goesOn : ∀ tracked, before.Carries graph name tracked → start.Carries graph name tracked)
    (starts : handler.course.start = start.catching handler.parameter) :
    Tracks graph name loops names tracked (handler.entered first) handler.course.start true := by
  have carried : before.Carries graph name
      ((Event.caught (Event.changed first)).track name (Tracked.after name tracked first)) := by
    intro last isLast
    simp only [Event.track] at isLast
    split at isLast
    · exact nomatch isLast
    · rename_i unchanged
      rcases Tracked.origin isLast with ⟨earlier, isEarlier, node, -, tests⟩ | ⟨atWrite, member⟩
      · exact carries.mono isEarlier node tests last rfl
      · have changed : name ∈ Event.changed first := List.mem_filterMap.2 ⟨_, member, rfl⟩
        exact absurd changed unchanged
  have begins : Tracks graph name loops names tracked first start false :=
    ⟨(ReadsCarry.append_iff.1 tracks.reads).1, fun other atWrite around member =>
      tracks.writes other atWrite around (List.mem_append_left _ member), nofun, nofun⟩
  have catches : Tracks graph name loops [] (Tracked.after name tracked first)
      (.caught (Event.changed first) :: handler.parameter.toList.map .forget)
      handler.course.start true := by
    rw [starts]
    apply cons (by trivial)
    cases handler.parameter with
    | none => exact nil live (goesOn _ carried)
    | some other => exact cons (by trivial) (nil live ((goesOn _ carried).forget other))
  exact begins.append catches (fun _ => id) (List.nil_subset _)

section Loop

variable {test : Expr} {size guard : Nat} {assigned : List String} {head : Environment} {body : Course}

/-- When control comes to the head of a loop again, the head carries the last write: where the loop
writes the variable, through the edge back from the end of the body; else the write was before the
loop, and the head carried it from the start. -/
theorem again {round : List Event} {last : Option Tracked}
    (heads : Environment.Heads graph size assigned before head body.atEnd)
    (written : ∀ name, name ∈ assigned ↔ name ∈ body.writes) (carries : head.Carries graph name tracked)
    (isLast : last = Tracked.after name ((Event.test guard true).track name tracked) round)
    (tracks : Tracks graph name (guard :: loops) body.writes
      ((Event.test guard true).track name tracked) round body.atEnd true) :
    head.Carries graph name ((Event.again guard before).track name last) := by
  intro kept isKept
  obtain ⟨isLast', isAllowed⟩ := Option.filter_eq_some_iff.1 isKept
  have isLast := isLast.symm.trans isLast'
  by_cases joined : name ∈ assigned ∧ ∃ number, before.Defines name number
  · have atEnd := tracks.carries rfl
    exact heads.carries_atEnd joined.1 joined.2 (tracks.live rfl) atEnd kept isLast
  · rcases Tracked.origin isLast with ⟨middle, isMiddle, node, -, tests⟩ | ⟨atWrite, member⟩
    · obtain ⟨earlier, isEarlier, rfl⟩ := Option.map_eq_some_iff.1 isMiddle
      exact carries.mono isEarlier node (fun _ more => tests (List.mem_append_left _ more)) kept rfl
    · -- A write in the body counts only where the variable was held before the loop.
      obtain ⟨isWritten, inside, -⟩ := tracks.writes name atWrite kept.loops member
      have isInside : kept.loops.contains guard = true :=
        List.contains_iff_mem.2 (inside List.mem_cons_self)
      rw [isInside, Bool.not_true, Bool.false_or, StringMap.contains,
        Option.isSome_iff_exists] at isAllowed
      exact absurd ⟨(written name).2 isWritten, isAllowed⟩ joined

/-- Rounds of a loop lead from its head to its head. -/
theorem rounds {rounds : List (List Event)}
    (heads : Environment.Heads graph size assigned before head body.atEnd)
    (written : ∀ name, name ∈ assigned ↔ name ∈ body.writes)
    (whenTrue : head.Refines graph size guard true body.start) (live : head.reachable = true)
    (inside : ∀ round ∈ rounds, ∀ tracked, body.start.Carries graph name tracked →
      Tracks graph name (guard :: loops) body.writes tracked round body.atEnd true)
    (carries : head.Carries graph name tracked) :
    Tracks graph name loops body.writes tracked (loopEvents test guard before head rounds) head
      true := by
  induction rounds generalizing tracked with
  | nil => exact (nil live carries).widen (List.nil_subset _)
  | cons round rounds inductionHypothesis =>
      have tracksRound := inside round List.mem_cons_self _ (whenTrue.carries carries)
      have comesAgain : Tracks graph name loops []
          (Tracked.after name ((Event.test guard true).track name tracked) round)
          [.again guard before] head true :=
        cons (by trivial) (nil live (again heads written carries rfl tracksRound))
      have first := afterReads carries test (cons (by trivial)
        (tracksRound.outer.append comesAgain (fun _ => id) (List.nil_subset _)))
      have carriesAgain := first.carries rfl
      exact first.append (inductionHypothesis (fun round later => inside round
        (List.mem_cons_of_mem _ later)) carriesAgain) (fun _ => id) (fun _ => id)

/-- Ways through a loop lead on from its head. -/
theorem fromHead
    (heads : Environment.Heads graph size assigned before head body.atEnd)
    (written : ∀ name, name ∈ assigned ↔ name ∈ body.writes)
    (whenTrue : head.Refines graph size guard true body.start)
    (whenFalse : head.Refines graph size guard false after) (live : head.reachable = true)
    (inside : ∀ {round : List Event} {falls : Bool} {tracked : Option Tracked},
      Course.Path (guard :: loops) body round falls → body.start.Carries graph name tracked →
        Tracks graph name (guard :: loops) body.writes tracked round body.atEnd falls)
    (way : Outline.Path loops (.loop test guard head body) before after events falls)
    (carries : head.Carries graph name tracked) :
    Tracks graph name loops body.writes tracked events after falls := by
  cases way with
  | loopLeft ways =>
      have tracks : Tracks graph name loops body.writes tracked
          (loopEvents test guard before head _) head true :=
        .rounds heads written whenTrue live (fun round member _ carries =>
          inside (ways round member) carries) carries
      have leaves : Tracks graph name loops [] _ [.test guard false] after true :=
        .cons (by trivial) (.nil (whenFalse.reachable.trans live)
          (whenFalse.carries (tracks.carries rfl)))
      exact tracks.append (.afterReads (tracks.carries rfl) test leaves) (fun _ => id)
        (List.nil_subset _)
  | loopStopped ways last =>
      have tracks : Tracks graph name loops body.writes tracked
          (loopEvents test guard before head _) head true :=
        .rounds heads written whenTrue live (fun round member _ carries =>
          inside (ways round member) carries) carries
      have stops := (inside last (whenTrue.carries (tracks.carries rfl))).outer
      exact tracks.append
        (.afterReads (tracks.carries rfl) test (.cons (by trivial) stops.stopped))
        (fun _ => id) (fun _ => id)

end Loop

end Tracks

mutual

/-- On every way through a statement the graph hands on what is written. -/
theorem Outline.tracks {graph : FlowGraph} {name : String} : (outline : Outline) →
    {loops : List Nat} → {before after : Environment} → {low high : Nat} →
    Outline.Stands graph before low outline after high → before.reachable = true →
    {events : List Event} → {falls : Bool} →
    Outline.Path loops outline before after events falls → {tracked : Option Tracked} →
    before.Carries graph name tracked →
    Tracks graph name loops outline.writes tracked events after falls
  | .evaluate expr, loops, before, after, low, high, stands, live, events, falls, way, tracked,
      carries => by
      cases stands with
      | evaluate _ same =>
          cases way with
          | evaluate =>
              subst same
              have tracks : Tracks graph name loops [] tracked
                  (Event.reads after expr ++ []) after true :=
                .afterReads carries expr (.nil live carries)
              rwa [List.append_nil] at tracks
  | .assign other value, loops, before, after, low, high, stands, live, events, falls, way, tracked,
      carries => by
      cases stands with
      | assign _ assigns =>
          cases way with
          | assign =>
              refine Tracks.afterReads carries value ⟨?_, ?_, ?_, ?_⟩
              · exact ⟨nofun, trivial⟩
              · intro written atWrite around member
                obtain ⟨rfl, rfl, rfl⟩ := Event.write.inj (List.mem_singleton.1 member)
                obtain ⟨node, defined, -⟩ := assigns.node
                exact ⟨List.mem_singleton_self _, fun _ => id, node, defined⟩
              · intro _
                rw [assigns.reachable, live]
              · intro _
                exact assigns.carries carries
  | .forget other, loops, before, after, low, high, stands, live, events, falls, way, tracked,
      carries => by
      cases stands with
      | forget _ forgets =>
          cases way with
          | forget =>
              subst forgets
              exact .cons (by trivial) (.nil live (carries.forget other))
  | .branch test guard accepted rejected, loops, before, after, low, high, stands, live, events,
      falls, way, tracked, carries => by
      cases stands with
      | branch _ whenTrue standsAccepted _ whenFalse standsRejected _ joins =>
          cases way with
          | accepted way =>
              have tracks := Course.tracks accepted standsAccepted
                (whenTrue.reachable.trans live) way (whenTrue.carries carries)
              have meets : Tracks graph name loops accepted.writes _ _ after falls :=
                tracks.meets fun isLive isCarried => ⟨joins.live List.mem_cons_self isLive,
                  joins.carries List.mem_cons_self isLive isCarried⟩
              exact .afterReads carries test (.cons (by trivial)
                (meets.widen (List.subset_append_left _ _)))
          | rejected way =>
              have tracks := Course.tracks rejected standsRejected
                (whenFalse.reachable.trans live) way (whenFalse.carries carries)
              have isEnd : rejected.atEnd ∈ [accepted.atEnd, rejected.atEnd] :=
                List.mem_cons_of_mem _ List.mem_cons_self
              have meets : Tracks graph name loops rejected.writes _ _ after falls :=
                tracks.meets fun isLive isCarried => ⟨joins.live isEnd isLive,
                  joins.carries isEnd isLive isCarried⟩
              exact .afterReads carries test (.cons (by trivial)
                (meets.widen (List.subset_append_right _ _)))
  | .loop test guard head body, loops, before, after, low, high, stands, live, events, falls, way,
      tracked, carries => by
      cases stands with
      | loop _ heads written whenTrue standsBody _ whenFalse =>
          have liveHead : head.reachable = true := heads.reachable.trans live
          exact .fromHead heads written whenTrue whenFalse liveHead
            (fun way carries => Course.tracks body standsBody
              (whenTrue.reachable.trans liveHead) way carries) way (heads.carries carries)
  | .block body, loops, before, after, low, high, stands, live, events, falls, way, tracked,
      carries => by
      cases stands with
      | block starts standsBody ends =>
          cases way with
          | block way =>
              subst starts ends
              exact Course.tracks body standsBody live way carries
  | .attempt body start handlers final, loops, before, after, low, high, stands, live, events,
      falls, way, tracked, carries => by
      cases stands with
      | attempt starts standsBody meets _ standHandlers joins _ standsFinal ends =>
          subst starts ends
          have joinsBody (isLive : body.atEnd.reachable = true) :
              final.start.reachable = true := joins.live List.mem_cons_self isLive
          cases way with
          | attempt way last =>
              have tracks := Course.tracks body standsBody live way carries
              have tracks' := Course.tracks final standsFinal (joinsBody (tracks.live rfl)) last
                (joins.carries List.mem_cons_self (tracks.live rfl) (tracks.carries rfl))
              refine tracks.append tracks' (fun _ member => ?_) (List.subset_append_right _ _)
              exact List.mem_append_left _ (List.mem_append_left _ member)
          | attemptStopped way =>
              have tracks := Course.tracks body standsBody live way carries
              refine tracks.stopped.widen fun _ member => ?_
              exact List.mem_append_left _ (List.mem_append_left _ member)
          | @handled _ _ _ _ handler _ _ _ first _ second third _ _ isHandler way handles last =>
              obtain ⟨starts, within, handling⟩ := handlers_track handlers standHandlers isHandler
              have enters := (Course.tracks body standsBody live way carries).entered carries
                (meets.live List.mem_cons_self live)
                (fun _ => meets.carries List.mem_cons_self live) starts
              have tracks := handling (enters.live rfl) handles (enters.carries rfl)
              have isEnd : handler.course.atEnd ∈
                  body.atEnd :: handlers.map fun handler => handler.course.atEnd :=
                List.mem_cons_of_mem _ (List.mem_map_of_mem isHandler)
              have tracks' := Course.tracks final standsFinal (joins.live isEnd (tracks.live rfl))
                last (joins.carries isEnd (tracks.live rfl) (tracks.carries rfl))
              have handled := tracks.append tracks' (List.subset_append_left _ _)
                (List.subset_append_right _ _)
              refine enters.append handled (fun _ member => ?_) fun _ member => ?_
              · exact List.mem_append_left _ (List.mem_append_left _ member)
              · rcases List.mem_append.1 member with member | member
                · exact List.mem_append_left _ (List.mem_append_right _ (within member))
                · exact List.mem_append_right _ member
          | @handlerStopped _ _ _ _ handler _ _ _ first _ second _ isHandler way handles =>
              obtain ⟨starts, within, handling⟩ := handlers_track handlers standHandlers isHandler
              have enters := (Course.tracks body standsBody live way carries).entered carries
                (meets.live List.mem_cons_self live)
                (fun _ => meets.carries List.mem_cons_self live) starts
              have tracks := handling (enters.live rfl) handles (enters.carries rfl)
              refine enters.append tracks.stopped (fun _ member => ?_) fun _ member => ?_
              · exact List.mem_append_left _ (List.mem_append_left _ member)
              · exact List.mem_append_left _ (List.mem_append_right _ (within member))
  | .return value, loops, before, after, low, high, stands, live, events, falls, way, tracked,
      carries => by
      cases way with
      | «return» =>
          cases value with
          | none => exact .nil_stopped
          | some value =>
              have tracks : Tracks graph name loops [] tracked
                  (Event.reads before value ++ []) after false :=
                .afterReads carries value .nil_stopped
              exact tracks

/-- On every way through statements the graph hands on what is written. -/
theorem Course.tracks {graph : FlowGraph} {name : String} : (course : Course) →
    {loops : List Nat} → {low high : Nat} → Course.Stands graph low course high →
    course.start.reachable = true → {events : List Event} → {falls : Bool} →
    Course.Path loops course events falls → {tracked : Option Tracked} →
    course.start.Carries graph name tracked →
    Tracks graph name loops course.writes tracked events course.atEnd falls
  | .done environment, loops, low, high, stands, live, events, falls, way, tracked, carries => by
      cases way with
      | done => exact .nil live carries
  | .step before outline rest, loops, low, high, stands, live, events, falls, way, tracked,
      carries => by
      cases stands with
      | step _ standsFirst standsRest =>
          cases way with
          | step way later =>
              have tracks := Outline.tracks outline standsFirst live way carries
              have tracks' := Course.tracks rest standsRest (tracks.live rfl) later
                (tracks.carries rfl)
              exact tracks.append tracks' (List.subset_append_left _ _) (List.subset_append_right _ _)
          | stopped way =>
              have tracks := Outline.tracks outline standsFirst live way carries
              exact (tracks.stopped).widen (List.subset_append_left _ _)

/-- On every way through one of some handlers the graph hands on what is written. -/
theorem handlers_track {graph : FlowGraph} {name : String} : (handlers : List HandlerCourse) →
    {start : Environment} → {low high : Nat} → HandlersStand graph start low handlers high →
    {handler : HandlerCourse} → handler ∈ handlers →
    handler.course.start = start.catching handler.parameter ∧
      handler.course.writes ⊆ writesOfHandlers handlers ∧
      ({loops : List Nat} → handler.course.start.reachable = true → {events : List Event} →
        {falls : Bool} → Course.Path loops handler.course events falls →
        {tracked : Option Tracked} → handler.course.start.Carries graph name tracked →
        Tracks graph name loops handler.course.writes tracked events handler.course.atEnd falls)
  | [], start, low, high, stands, handler, isHandler => absurd isHandler List.not_mem_nil
  | ⟨parameter, course⟩ :: rest, start, low, high, stands, handler, isHandler => by
      cases stands with
      | cons _ starts standsFirst standRest =>
          rcases List.mem_cons.1 isHandler with rfl | later
          · refine ⟨starts, List.subset_append_left _ _, ?_⟩
            intro loops live events falls way tracked carries
            exact Course.tracks course standsFirst live way carries
          · obtain ⟨starts', within, handling⟩ := handlers_track rest standRest later
            exact ⟨starts', fun _ member => List.mem_append_right _ (within member), handling⟩

end

/-- The event neither gives a variable a value nor takes it away. -/
def Event.Keeps (name : String) : Event → Prop
  | .write other _ _ | .forget other => other ≠ name
  | .caught names => name ∉ names
  | _ => True

/-- The events on a way through a procedure, whose parameters are written first. -/
def Procedure.IsWay (procedure : Procedure) (course : Course) (events : List Event) : Prop :=
  ∃ inside falls, Course.Path [] course inside falls ∧
    events = procedure.parameters.map (fun parameter => .write parameter.name course.start []) ++
      inside

/-- Parameters are carried from the start. -/
theorem Tracks.parameters {graph : FlowGraph} {name : String} {parameters : List Parameter}
    {start : Environment} {tracked : Option Tracked} (live : start.reachable = true)
    (defined : ∀ parameter ∈ parameters,
      ∃ node, start.Defines parameter.name node ∧ graph.Passes [] node)
    (carries : start.Carries graph name tracked) :
    Tracks graph name [] (parameters.map Parameter.name) tracked
      (parameters.map fun parameter => .write parameter.name start []) start true := by
  induction parameters generalizing tracked with
  | nil => exact .nil live carries
  | cons parameter parameters inductionHypothesis =>
      obtain ⟨node, isDefined, passes⟩ := defined parameter List.mem_cons_self
      have assigns : start.Assigns graph parameter.name start :=
        ⟨rfl, ⟨node, isDefined, passes⟩, fun _ _ => rfl⟩
      have carried : start.Carries graph name
          ((Event.write parameter.name start []).track name tracked) := assigns.carries carries
      have tracks := inductionHypothesis
        (fun other later => defined other (List.mem_cons_of_mem _ later)) carried
      refine ⟨⟨nofun, tracks.reads⟩, ?_, tracks.live, tracks.carries⟩
      intro other atWrite around member
      rcases List.mem_cons.1 member with same | later
      · obtain ⟨rfl, rfl, rfl⟩ := Event.write.inj same
        exact ⟨List.mem_cons_self, fun _ => id, node, isDefined⟩
      · obtain ⟨isParameter, inside⟩ := tracks.writes other atWrite around later
        exact ⟨List.mem_cons_of_mem _ isParameter, inside⟩

namespace Tracked

/-- A last write stays the last one while its variable is kept, and wherever control comes to the
head of a loop around it, provided that the variable had a value before the loop. -/
theorem after_kept {name : String} {tracked : Tracked} {events : List Event}
    (keeps : ∀ event ∈ events, event.Keeps name)
    (entered : ∀ guard entry, .again guard entry ∈ events → guard ∈ tracked.loops →
      ∃ node, entry.Defines name node) :
    after name (some tracked) events =
      some { tracked with tests := tracked.tests ++ Event.tests events } := by
  induction events generalizing tracked with
  | nil => simp [after, Event.tests]
  | cons event events inductionHypothesis =>
      have kept := keeps event List.mem_cons_self
      have later (more : Tracked) (same : more.loops = tracked.loops) :=
        @inductionHypothesis more
          (fun other member => keeps other (List.mem_cons_of_mem _ member))
          fun guard entry member isInside => entered guard entry (List.mem_cons_of_mem _ member)
            (same ▸ isInside)
      rw [after_cons]
      cases event with
      | read => exact later tracked rfl
      | write => rw [Event.track, if_neg kept]; exact later tracked rfl
      | forget => rw [Event.track, if_neg kept]; exact later tracked rfl
      | caught => rw [Event.track, if_neg kept]; exact later tracked rfl
      | test guard outcome =>
          rw [Event.track, Option.map_some,
            later { tracked with tests := tracked.tests ++ [(guard, outcome)] } rfl]
          simp [Event.tests]
      | again guard entry =>
          have allowed : (!tracked.loops.contains guard || entry.definitions.contains name) =
              true := by
            rw [Bool.or_eq_true, Bool.not_eq_true']
            by_cases isInside : guard ∈ tracked.loops
            · obtain ⟨node, defined⟩ := entered guard entry List.mem_cons_self isInside
              exact .inr (Option.isSome_iff_exists.2 ⟨node, defined⟩)
            · exact .inl (Bool.eq_false_iff.2 fun member => isInside (List.contains_iff_mem.1 member))
          rw [Event.track, Option.filter_some, if_pos allowed]
          exact later tracked rfl

end Tracked

namespace Build

/-- Where a variable is held by a node, that node is what a read of it is lowered to. -/
theorem lower_variable (context : BuildContext) {environment : Environment} {name : String}
    {node : Nat} (defined : environment.Defines name node) {draft : Draft}
    (allowed : draft.depth < maxNesting) :
    (lower context environment (.variable name)).run draft = .ok (node, draft) := by
  rw [lower, nested_ok]
  refine ⟨allowed, { draft with depth := draft.depth + 1 }, ?_, rfl⟩
  unfold readVariable
  rw [show environment.definitions.get? name = some node from defined]
  exact pure_ok.2 ⟨rfl, rfl⟩

end Build

namespace FlowGraph

/-- On every way through a procedure, what was written last to a variable reaches each read of it:
the graph hands the node of the write on to the node that the read is lowered to, through guards of
tests that were made since then only.  Where control comes to the head of a loop around the write,
the variable must have had a value before the loop. -/
theorem build_hands_writes_on {catalog : Catalog} {unitConstants : StringMap String}
    {procedure : Procedure} {graph : FlowGraph}
    (built : build catalog unitConstants procedure = .ok graph) :
    ∃ course, outline catalog unitConstants procedure = .ok (course, graph) ∧
      course.Shows procedure.body ∧
      ∀ (earlier between later : List Event) (name : String) (atWrite atRead : Environment)
        (loops : List Nat),
        procedure.IsWay course
          (earlier ++ .write name atWrite loops :: (between ++ .read atRead name :: later)) →
        (∀ event ∈ between, event.Keeps name) →
        (∀ guard entry, .again guard entry ∈ between → guard ∈ loops →
          ∃ node, entry.Defines name node) →
        ∃ written read, atWrite.Defines name written ∧
          (∀ draft : Draft, draft.depth < maxNesting →
            (Build.lower ⟨catalog, unitConstants, procedure⟩ atRead (.variable name)).run draft =
              .ok (read, draft)) ∧
          graph.Passes (Event.tests between) written ∧
          graph.HandsOn (Event.tests between) written read := by
  obtain ⟨course, outlined, isOutlined⟩ := isOutlined_of_build built
  refine ⟨course, outlined, isOutlined.shows, ?_⟩
  intro earlier between later name atWrite atRead loops isWay keeps entered
  obtain ⟨inside, falls, way, events⟩ := isWay
  obtain ⟨low, high, stands⟩ := isOutlined.stands
  have starts : Tracks graph name [] _ none _ course.start true :=
    .parameters isOutlined.reachable isOutlined.parameters (course.start.carries_none graph name)
  have tracks := starts.append (Course.tracks course stands isOutlined.reachable way
    (starts.carries rfl)) (List.subset_append_left _ course.writes) (List.subset_append_right _ _)
  rw [← events] at tracks
  obtain ⟨-, -, written, defined⟩ := tracks.writes name atWrite loops
    (List.mem_append_right _ List.mem_cons_self)
  have isLast : Tracked.after name (Tracked.after name none earlier)
      (.write name atWrite loops :: between) = some ⟨written, loops, Event.tests between⟩ := by
    rw [Tracked.after_cons, Event.track, if_pos rfl,
      show atWrite.definitions.get? name = some written from defined, Option.map_some,
      Tracked.after_kept keeps entered]
    rfl
  have reads := (ReadsCarry.append_iff.1 tracks.reads).2
  rw [← List.cons_append] at reads
  have carries := (ReadsCarry.append_iff.1 reads).2.1 atRead rfl
  obtain ⟨passes, read, held, hands⟩ := carries _ isLast
  exact ⟨written, read, defined, fun _ => Build.lower_variable _ held, passes, hands⟩

/-- The path that a round of the loop decodes is forwarded once its test fails. -/
theorem build_hands_decoded_path_on :
    build DecodingLoop.catalog .empty DecodingLoop.procedure = .ok DecodingLoop.graph ∧
    DecodingLoop.procedure.IsWay DecodingLoop.course
      ([.write "path" (DecodingLoop.environment 1) [], .read (DecodingLoop.environment 2) "path",
        .test 0 true, .read (DecodingLoop.environment 5) "path"] ++
        .write "path" (DecodingLoop.environment 7) [0] ::
        ([.again 0 (DecodingLoop.environment 1), .read (DecodingLoop.environment 2) "path",
          .test 0 false] ++ .read (DecodingLoop.environment 8) "path" :: [])) ∧
    DecodingLoop.graph.HandsOn [(0, false)] 7 8 := by
  have isWay : DecodingLoop.procedure.IsWay DecodingLoop.course
      ([.write "path" (DecodingLoop.environment 1) [], .read (DecodingLoop.environment 2) "path",
        .test 0 true, .read (DecodingLoop.environment 5) "path"] ++
        .write "path" (DecodingLoop.environment 7) [0] ::
        ([.again 0 (DecodingLoop.environment 1), .read (DecodingLoop.environment 2) "path",
          .test 0 false] ++ .read (DecodingLoop.environment 8) "path" :: [])) :=
    ⟨_, _, .step .assign (.step (.loopLeft (List.forall_mem_singleton.2 (.step .assign .done)))
      (.step .evaluate .done)), rfl⟩
  obtain ⟨course, outlined, -, hands⟩ := build_hands_writes_on DecodingLoop.build_eq
  obtain ⟨rfl, -⟩ := Prod.mk.inj (Except.ok.inj (outlined.symm.trans DecodingLoop.outline_eq))
  refine ⟨DecodingLoop.build_eq, isWay, ?_⟩
  obtain ⟨written, read, isWritten, isRead, -, handed⟩ := hands _ _ _ _ _ _ _ isWay
    (by simp [Event.Keeps])
    (by simp [Environment.Defines, DecodingLoop.environment, StringMap.get?_insert])
  obtain rfl : 7 = written := Option.some.inj isWritten
  have shallow : Draft.empty.depth < maxNesting := by decide
  have lowered := isRead .empty shallow
  have held := Build.lower_variable ⟨DecodingLoop.catalog, .empty, DecodingLoop.procedure⟩
    (show (DecodingLoop.environment 8).Defines "path" 8 from rfl) shallow
  obtain ⟨rfl, -⟩ := Prod.mk.inj (Except.ok.inj (held.symm.trans lowered))
  exact handed

end FlowGraph

end ForwardTaint
