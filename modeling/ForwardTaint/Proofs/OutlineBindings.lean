import ForwardTaint.Proofs.OutlinedGraph

/-!
The flags that the construction knows at the places of an outline: what each statement does to the
table and whether control comes behind it.  An outline that treats the flags of statements shows
them, so one walk over the construction tells both.
-/

namespace ForwardTaint

namespace Environment

/-- Control goes from the first environment to the second one with the same flags. -/
structure Continues (before after : Environment) : Prop where
  aliases : after.aliases = before.aliases
  reachable : after.reachable = before.reachable

theorem Continues.refl (environment : Environment) : environment.Continues environment := ⟨rfl, rfl⟩

/-- The second environment is the first one after a variable was given the value of an expression. -/
structure Stores (name : String) (value : Expr) (before after : Environment) : Prop where
  aliases : after.aliases = AliasTable.assign before.aliases name value
  reachable : after.reachable = before.reachable

/-- The last environment has the flags on which those agree that control comes from. -/
structure Meets (environments : List Environment) (after : Environment) : Prop where
  reachable : after.reachable = true ↔ ∃ environment ∈ environments, environment.reachable = true
  aliases : after.reachable = true → ∀ flag predicate, after.aliases.get? flag = some predicate ↔
    ∀ environment ∈ environments, environment.reachable = true →
      environment.aliases.get? flag = some predicate

end Environment

mutual

/-- What the construction does to the flags for a statement, between an environment before it and
one behind it. -/
inductive Outline.Binds : Environment → Stmt → Outline → Environment → Prop
  | initial {before after : Environment} {name : String} {typeName : Option String} {value : Expr}
      {span : Span} (stores : before.Stores name value after) :
      Outline.Binds before (.declare name typeName (some value) span) (.assign name value) after
  | declare {before after : Environment} {name : String} {typeName : Option String} {span : Span}
      (forgets : after = before.forget name) :
      Outline.Binds before (.declare name typeName none span) (.forget name) after
  | assign {before after : Environment} {target : String} {value : Expr} {span : Span}
      (stores : before.Stores target value after) :
      Outline.Binds before (.assign target value span) (.assign target value) after
  | evaluate {before after : Environment} {expr : Expr} {span : Span} (same : after = before) :
      Outline.Binds before (.evaluate expr span) (.evaluate expr) after
  | branch {before after : Environment} {test : Expr} {guard : Nat} {whenTrue whenFalse : Course}
      {accepted : List Stmt} {rejected : Option (List Stmt)} {span : Span}
      (entersTrue : before.Continues whenTrue.start) (bindsTrue : Course.Binds accepted whenTrue)
      (entersFalse : before.Continues whenFalse.start)
      (bindsFalse : Course.Binds (rejected.getD []) whenFalse)
      (meets : Environment.Meets [whenTrue.atEnd, whenFalse.atEnd] after) :
      Outline.Binds before (.branch test accepted rejected span)
        (.branch test guard whenTrue whenFalse) after
  | loop {before head after : Environment} {test : Expr} {guard : Nat} {round : Course}
      {body : List Stmt} {span : Span}
      (aliases : head.aliases = AliasTable.atLoopHead before.aliases (AliasTable.after body))
      (reachable : head.reachable = before.reachable) (enters : head.Continues round.start)
      (bindsBody : Course.Binds body round) (leaves : head.Continues after) :
      Outline.Binds before (.loop test body span) (.loop test guard head round) after
  | block {before after : Environment} {inside : Course} {body : List Stmt}
      (enters : inside.start = before) (bindsBody : Course.Binds body inside)
      (leaves : after = inside.atEnd) : Outline.Binds before (.block body) (.block inside) after
  | attempt {before start after : Environment} {inside atLast : Course}
      {handled : List HandlerCourse} {body : List Stmt} {handlers : List Handler}
      {final : Option (List Stmt)} (enters : inside.start = before)
      (bindsBody : Course.Binds body inside)
      (starts : Environment.Meets [before, inside.atEnd] start)
      (bindHandlers : HandlersBind start handlers handled)
      (meets : Environment.Meets
        (inside.atEnd :: handled.map fun handler => handler.course.atEnd) atLast.start)
      (bindsFinal : Course.Binds (final.getD []) atLast) (leaves : after = atLast.atEnd) :
      Outline.Binds before (.attempt body handlers final) (.attempt inside start handled atLast)
        after
  | return {before after : Environment} {value : Option Expr} {span : Span}
      (leaves : after.reachable = false) :
      Outline.Binds before (.return value span) (.return value) after

/-- What the construction does to the flags for statements one after the other. -/
inductive Course.Binds : List Stmt → Course → Prop
  | done {environment : Environment} : Course.Binds [] (.done environment)
  | step {before : Environment} {outline : Outline} {rest : Course} {stmt : Stmt}
      {stmts : List Stmt} (bindsFirst : Outline.Binds before stmt outline rest.start)
      (bindsRest : Course.Binds stmts rest) : Course.Binds (stmt :: stmts) (.step before outline rest)

/-- What the construction does to the flags for handlers that start from an environment. -/
inductive HandlersBind : Environment → List Handler → List HandlerCourse → Prop
  | nil {start : Environment} : HandlersBind start [] []
  | cons {start : Environment} {parameter exceptionType : Option String} {course : Course}
      {body : List Stmt} {handlers : List Handler} {courses : List HandlerCourse}
      (starts : course.start = start.catching parameter) (bindsBody : Course.Binds body course)
      (bindRest : HandlersBind start handlers courses) :
      HandlersBind start (⟨parameter, exceptionType, body⟩ :: handlers)
        (⟨parameter, course⟩ :: courses)

end

mutual

/-- An outline shows the statement whose flags it treats. -/
theorem Outline.Binds.shows {before after : Environment} {stmt : Stmt} {outline : Outline} :
    outline.Binds before stmt after → outline.Shows stmt
  | .initial _ => .initial
  | .declare _ => .declare
  | .assign _ => .assign
  | .evaluate _ => .evaluate
  | .branch _ bindsTrue _ bindsFalse _ => .branch bindsTrue.shows bindsFalse.shows
  | .loop _ _ _ bindsBody _ => .loop bindsBody.shows
  | .block _ bindsBody _ => .block bindsBody.shows
  | .attempt _ bindsBody _ bindHandlers _ bindsFinal _ =>
      .attempt bindsBody.shows bindHandlers.show bindsFinal.shows
  | .return _ => .return

theorem Course.Binds.shows {stmts : List Stmt} {course : Course} :
    course.Binds stmts → course.Shows stmts
  | .done => .done
  | .step bindsFirst bindsRest => .step bindsFirst.shows bindsRest.shows

theorem HandlersBind.show {start : Environment} {handlers : List Handler}
    {courses : List HandlerCourse} : HandlersBind start handlers courses →
    HandlersShow courses handlers
  | .nil => .nil
  | .cons _ bindsBody bindRest => .cons bindsBody.shows bindRest.show

end

namespace Build

variable {context : BuildContext} {environment after : Environment}
  {draft final : Draft} {Result : Type}

/-- What follows a node that is added with one edge. -/
theorem addNode_edge_ok {kind : NodeKind} {text : String} {span : Span}
    {variableName : Option String} {source : Nat} {label : EdgeLabel} {next : Nat → Build Result}
    {value : Result} (ends : StateT.run (do
      let node ← addNode context kind text span variableName
      addEdge source node label
      next node) draft = .ok (value, final)) :
    (next draft.nodes.size).run
      (draft.withNode ⟨kind, text, span, variableName⟩ [(source, label)]) = .ok (value, final) := by
  simp only [bind_ok, addNode_ok, addEdge_ok] at ends
  obtain ⟨number, between, ⟨-, rfl, rfl⟩, result, after, rfl, ends⟩ := ends
  exact ends

/-- The bindings of several tables. -/
theorem get?_foldl_intersect {environments : List Environment} {table : AliasTable} {flag : String}
    {predicate : Expr} :
    (environments.foldl (fun table environment =>
      AliasTable.intersect table environment.aliases) table).get? flag = some predicate ↔
      table.get? flag = some predicate ∧
        ∀ environment ∈ environments, environment.aliases.get? flag = some predicate := by
  induction environments generalizing table with
  | nil => simp
  | cons environment environments inductionHypothesis =>
      rw [List.foldl_cons, inductionHypothesis, AliasTable.get?_intersect, List.forall_mem_cons,
        and_assoc]

/-- The outcome of a test changes no flags. -/
theorem refineAll_continues {guard : GuardCondition} {outcome : Bool} {subjects : List String}
    (ends : (refineAll context guard outcome subjects environment).run draft = .ok (after, final)) :
    environment.Continues after := by
  induction subjects generalizing environment draft with
  | nil =>
      obtain ⟨rfl, -⟩ := pure_ok.1 ends
      exact .refl _
  | cons subject subjects inductionHypothesis =>
      rw [refineAll] at ends
      split at ends
      · exact inductionHypothesis ends
      · have continues := inductionHypothesis (addNode_edge_ok ends)
        exact ⟨continues.aliases, continues.reachable⟩

theorem assign_stores {name : String} {value : Expr} {span : Span}
    (ends : (assign context name value span environment).run draft = .ok (after, final)) :
    environment.Stores name value after := by
  unfold assign at ends
  obtain ⟨valueNode, between, -, ends⟩ := bind_ok.1 ends
  have ends := addNode_edge_ok ends
  obtain ⟨rfl, -⟩ := pure_ok.1 ends
  exact ⟨rfl, rfl⟩

/-- The nodes at the head of a loop change no flags. -/
theorem addLoopNodes_continues {span : Span} {entry head : Environment} {names : List String}
    {nodes : List (String × Nat)}
    (ends : (addLoopNodes context span entry names head).run draft = .ok ((nodes, after), final)) :
    head.Continues after := by
  induction names generalizing head draft final nodes with
  | nil =>
      obtain ⟨same, -⟩ := pure_ok.1 ends
      obtain ⟨-, rfl⟩ := Prod.mk.inj same
      exact .refl _
  | cons name names inductionHypothesis =>
      rw [addLoopNodes] at ends
      split at ends
      · exact inductionHypothesis ends
      · have ends := addNode_edge_ok ends
        obtain ⟨⟨nodes', after'⟩, between, later, ends⟩ := bind_ok.1 ends
        obtain ⟨same, -⟩ := pure_ok.1 ends
        obtain ⟨-, rfl⟩ := Prod.mk.inj same
        have continues := inductionHypothesis later
        exact ⟨continues.aliases, continues.reachable⟩

/-- Parameters stand for no test. -/
theorem addParameters_continues {parameters : List Parameter}
    (ends : (addParameters context parameters environment).run draft = .ok (after, final)) :
    environment.Continues after := by
  induction parameters generalizing environment draft with
  | nil =>
      obtain ⟨rfl, -⟩ := pure_ok.1 ends
      exact .refl _
  | cons parameter parameters inductionHypothesis =>
      rw [addParameters_cons (addParameters_ok ends)] at ends
      obtain ⟨_, _, -, ends⟩ := bind_ok.1 ends
      obtain ⟨_, _, -, ends⟩ := bind_ok.1 ends
      have continues := inductionHypothesis ends
      exact ⟨continues.aliases, continues.reachable⟩

/-- Where ways meet, the flags are those that all ways agree on. -/
theorem join_meets {environments : List Environment} {span : Span}
    (ends : (join context environments span).run draft = .ok (after, final)) :
    Environment.Meets environments after := by
  have isMet {live : List Environment} (isLive : environments.filter Environment.reachable = live)
      (good : Environment → Prop) : (∀ environment ∈ live, good environment) ↔
        ∀ environment ∈ environments, environment.reachable = true → good environment := by
    simp only [← isLive, List.mem_filter, and_imp]
  have comes {live : List Environment} (isLive : environments.filter Environment.reachable = live)
      {environment : Environment} (member : environment ∈ live) :
      ∃ environment ∈ environments, environment.reachable = true := by
    rw [← isLive] at member
    exact ⟨environment, List.mem_filter.1 member⟩
  unfold join at ends
  split at ends
  · rename_i none
    obtain ⟨rfl, -⟩ := pure_ok.1 ends
    constructor
    · constructor
      · intro isReachable
        exact nomatch isReachable
      · intro ⟨environment, member, isReachable⟩
        have live := List.mem_filter.2 ⟨member, isReachable⟩
        rw [none] at live
        exact nomatch live
    · intro isReachable
      exact nomatch isReachable
  · rename_i single only
    obtain ⟨rfl, -⟩ := pure_ok.1 ends
    have live : single.reachable = true :=
      (List.mem_filter.1 (only ▸ List.mem_singleton_self single)).2
    constructor
    · exact ⟨fun _ => comes only (List.mem_singleton_self single), fun _ => live⟩
    · intro _ flag predicate
      rw [← isMet only, List.forall_mem_singleton]
  · rename_i first rest _ several
    obtain ⟨definitions, between, joined, ends⟩ := bind_ok.1 ends
    obtain ⟨rfl, -⟩ := pure_ok.1 ends
    constructor
    · exact ⟨fun _ => comes several List.mem_cons_self, fun _ => rfl⟩
    · intro _ flag predicate
      rw [← isMet several, get?_foldl_intersect, List.forall_mem_cons]

mutual

/-- The construction treats the flags of a statement as its outline says. -/
theorem outlineStmt_binds : (stmt : Stmt) → {environment after : Environment} →
    {draft final : Draft} → {outline : Outline} →
    (outlineStmt context stmt environment).run draft = .ok ((outline, after), final) →
    Outline.Binds environment stmt outline after
  | .declare _ _ none _, _, _, _, _, _, ends => by
      simp only [outlineStmt, nested_ok, bind_ok, pure_ok, Prod.mk.injEq] at ends
      obtain ⟨-, _, ⟨_, _, -, ⟨rfl, rfl⟩, -⟩, -⟩ := ends
      exact .declare rfl
  | .declare _ _ (some _) _, _, _, _, _, _, ends => by
      simp only [outlineStmt, nested_ok, bind_ok, pure_ok, Prod.mk.injEq] at ends
      obtain ⟨-, _, ⟨_, _, -, _, _, assigns, ⟨rfl, rfl⟩, -⟩, -⟩ := ends
      exact .initial (assign_stores assigns)
  | .assign _ _ _, _, _, _, _, _, ends => by
      simp only [outlineStmt, nested_ok, bind_ok, pure_ok, Prod.mk.injEq] at ends
      obtain ⟨-, _, ⟨_, _, assigns, ⟨rfl, rfl⟩, -⟩, -⟩ := ends
      exact .assign (assign_stores assigns)
  | .evaluate _ _, _, _, _, _, _, ends => by
      simp only [outlineStmt, nested_ok, bind_ok, pure_ok, Prod.mk.injEq] at ends
      obtain ⟨-, _, ⟨_, _, -, ⟨rfl, rfl⟩, -⟩, -⟩ := ends
      exact .evaluate rfl
  | .branch _ accepted rejected _, _, _, _, _, _, ends => by
      simp only [outlineStmt, nested_ok, bind_ok, pure_ok, Prod.mk.injEq] at ends
      obtain ⟨-, _, ⟨_, _, -, _, _, -, _, _, refines, whenTrue, _, outlines, _, _, refines',
        whenFalse, _, outlines', _, _, joins, ⟨rfl, rfl⟩, -⟩, -⟩ := ends
      obtain ⟨rfl, binds⟩ := outlineAll_binds accepted outlines
      obtain ⟨rfl, binds'⟩ := outlineOption_binds rejected outlines'
      exact .branch (refineAll_continues refines) binds (refineAll_continues refines') binds'
        (join_meets joins)
  | .loop _ body _, _, _, _, _, _, ends => by
      simp only [outlineStmt, nested_ok, bind_ok] at ends
      obtain ⟨-, _, ⟨⟨nodes, head⟩, _, heads, _, _, -, _, _, -, _, _, refines, round, _, outlines,
        ends⟩, -⟩ := ends
      have isHead := addLoopNodes_continues heads
      obtain ⟨rfl, binds⟩ := outlineAll_binds body outlines
      split at ends
      · simp only [bind_ok, pure_ok, Prod.mk.injEq] at ends
        obtain ⟨_, _, -, _, _, refines', ⟨rfl, rfl⟩, -⟩ := ends
        exact .loop isHead.aliases isHead.reachable (refineAll_continues refines) binds
          (refineAll_continues refines')
      · simp only [bind_ok, pure_ok, Prod.mk.injEq] at ends
        obtain ⟨_, _, refines', ⟨rfl, rfl⟩, -⟩ := ends
        exact .loop isHead.aliases isHead.reachable (refineAll_continues refines) binds
          (refineAll_continues refines')
  | .block body, _, _, _, _, _, ends => by
      simp only [outlineStmt, nested_ok, bind_ok, pure_ok, Prod.mk.injEq] at ends
      obtain ⟨-, _, ⟨inside, _, outlines, ⟨rfl, rfl⟩, -⟩, -⟩ := ends
      obtain ⟨rfl, binds⟩ := outlineAll_binds body outlines
      exact .block rfl binds rfl
  | .attempt body handlers last, _, _, _, _, _, ends => by
      simp only [outlineStmt, nested_ok, bind_ok, pure_ok, Prod.mk.injEq] at ends
      obtain ⟨-, _, ⟨inside, _, outlines, _, _, meets, handled, _, outlines', _, _, joins, atLast, _,
        outlines'', ⟨rfl, rfl⟩, -⟩, -⟩ := ends
      obtain ⟨rfl, binds⟩ := outlineAll_binds body outlines
      obtain ⟨rfl, binds''⟩ := outlineOption_binds last outlines''
      exact .attempt rfl binds (join_meets meets) (outlineHandlers_bind handlers outlines')
        (join_meets joins) binds'' rfl
  | .return none _, _, _, _, _, _, ends => by
      simp only [outlineStmt, nested_ok, pure_ok, Prod.mk.injEq] at ends
      obtain ⟨-, _, ⟨⟨rfl, rfl⟩, -⟩, -⟩ := ends
      exact .return rfl
  | .return (some _) _, _, _, _, _, _, ends => by
      simp only [outlineStmt, nested_ok, bind_ok, pure_ok, Prod.mk.injEq] at ends
      obtain ⟨-, _, ⟨_, _, -, ⟨rfl, rfl⟩, -⟩, -⟩ := ends
      exact .return rfl

theorem outlineAll_binds : (stmts : List Stmt) → {environment : Environment} →
    {draft final : Draft} → {course : Course} →
    (outlineAll context stmts environment).run draft = .ok (course, final) →
    course.start = environment ∧ Course.Binds stmts course
  | [], _, _, _, _, ends => by
      obtain ⟨rfl, -⟩ := pure_ok.1 ends
      exact ⟨rfl, .done⟩
  | stmt :: rest, _, _, _, _, ends => by
      simp only [outlineAll, bind_ok, pure_ok] at ends
      obtain ⟨⟨outline, after⟩, _, outlines, later, _, outlines', rfl, -⟩ := ends
      obtain ⟨rfl, binds⟩ := outlineAll_binds rest outlines'
      exact ⟨rfl, .step (outlineStmt_binds stmt outlines) binds⟩

theorem outlineOption_binds : (stmts : Option (List Stmt)) →
    {environment : Environment} → {draft final : Draft} → {course : Course} →
    (outlineOption context stmts environment).run draft = .ok (course, final) →
    course.start = environment ∧ Course.Binds (stmts.getD []) course
  | none, _, _, _, _, ends => by
      obtain ⟨rfl, -⟩ := pure_ok.1 ends
      exact ⟨rfl, .done⟩
  | some stmts, _, _, _, _, ends => outlineAll_binds stmts ends

theorem outlineHandlers_bind : (handlers : List Handler) → {start : Environment} →
    {draft final : Draft} → {courses : List HandlerCourse} →
    (outlineHandlers context start handlers).run draft = .ok (courses, final) →
    HandlersBind start handlers courses
  | [], _, _, _, _, ends => by
      obtain ⟨rfl, -⟩ := pure_ok.1 ends
      exact .nil
  | ⟨none, _, body⟩ :: rest, _, _, _, _, ends => by
      simp only [outlineHandlers, bind_ok, pure_ok] at ends
      obtain ⟨_, _, ⟨rfl, rfl⟩, course, _, outlines, later, _, outlines', rfl, -⟩ := ends
      obtain ⟨starts, binds⟩ := outlineAll_binds body outlines
      exact .cons starts binds (outlineHandlers_bind rest outlines')
  | ⟨some _, _, body⟩ :: rest, _, _, _, _, ends => by
      simp only [outlineHandlers, bind_ok, pure_ok] at ends
      obtain ⟨_, _, -, _, _, ⟨rfl, rfl⟩, course, _, outlines, later, _, outlines', rfl, -⟩ := ends
      obtain ⟨starts, binds⟩ := outlineAll_binds body outlines
      exact .cons starts binds (outlineHandlers_bind rest outlines')

end

/-- Outlining statements answers a course that shows them. -/
theorem outlineAll_shows (stmts : List Stmt) {course : Course}
    (ends : (outlineAll context stmts environment).run draft = .ok (course, final)) :
    course.Shows stmts :=
  (outlineAll_binds stmts ends).2.shows

end Build

end ForwardTaint
