import ForwardTaint.Proofs.GraphConstruction

/-!
Outlines of procedures.  An outline shows a procedure with the environments that the construction
has at its places: before and behind each statement, at the heads of loops, and where handlers start.
Making it is the construction itself, which only keeps what it knew on the way.
-/

namespace ForwardTaint

mutual

/-- A statement with the environments inside it. -/
inductive Outline where
  | evaluate (expr : Expr)
  | assign (name : String) (value : Expr)
  | forget (name : String)
  | branch (test : Expr) (guard : Nat) (accepted rejected : Course)
  | loop (test : Expr) (guard : Nat) (head : Environment) (body : Course)
  | block (body : Course)
  | attempt (body : Course) (start : Environment) (handlers : List HandlerCourse) (final : Course)
  | return (value : Option Expr)

/-- Statements one after the other, with the environment before each of them and behind them. -/
inductive Course where
  | done (environment : Environment)
  | step (environment : Environment) (outline : Outline) (rest : Course)

/-- A handler, with the variable of what it catches. -/
structure HandlerCourse where
  parameter : Option String
  course : Course

end

namespace Course

/-- The environment before the first statement. -/
def start : Course → Environment
  | .done environment | .step environment _ _ => environment

/-- The environment behind the last statement. -/
def atEnd : Course → Environment
  | .done environment => environment
  | .step _ _ rest => rest.atEnd

end Course

mutual

/-- The outline shows the statement. -/
inductive Outline.Shows : Outline → Stmt → Prop
  | initial {name : String} {typeName : Option String} {value : Expr} {span : Span} :
      Outline.Shows (.assign name value) (.declare name typeName (some value) span)
  | declare {name : String} {typeName : Option String} {span : Span} :
      Outline.Shows (.forget name) (.declare name typeName none span)
  | assign {target : String} {value : Expr} {span : Span} :
      Outline.Shows (.assign target value) (.assign target value span)
  | evaluate {expr : Expr} {span : Span} : Outline.Shows (.evaluate expr) (.evaluate expr span)
  | branch {test : Expr} {guard : Nat} {whenTrue whenFalse : Course} {accepted : List Stmt}
      {rejected : Option (List Stmt)} {span : Span} (showsAccepted : Course.Shows whenTrue accepted)
      (showsRejected : Course.Shows whenFalse (rejected.getD [])) :
      Outline.Shows (.branch test guard whenTrue whenFalse) (.branch test accepted rejected span)
  | loop {test : Expr} {guard : Nat} {head : Environment} {round : Course} {body : List Stmt}
      {span : Span} (showsBody : Course.Shows round body) :
      Outline.Shows (.loop test guard head round) (.loop test body span)
  | block {inside : Course} {body : List Stmt} (showsBody : Course.Shows inside body) :
      Outline.Shows (.block inside) (.block body)
  | attempt {inside atLast : Course} {start : Environment} {handled : List HandlerCourse}
      {body : List Stmt} {handlers : List Handler} {final : Option (List Stmt)}
      (showsBody : Course.Shows inside body) (showHandlers : HandlersShow handled handlers)
      (showsFinal : Course.Shows atLast (final.getD [])) :
      Outline.Shows (.attempt inside start handled atLast) (.attempt body handlers final)
  | return {value : Option Expr} {span : Span} : Outline.Shows (.return value) (.return value span)

/-- The outlines show the statements, one after the other. -/
inductive Course.Shows : Course → List Stmt → Prop
  | done {environment : Environment} : Course.Shows (.done environment) []
  | step {environment : Environment} {outline : Outline} {rest : Course} {stmt : Stmt}
      {stmts : List Stmt} (showsFirst : outline.Shows stmt) (showsRest : rest.Shows stmts) :
      Course.Shows (.step environment outline rest) (stmt :: stmts)

/-- The outlines show the handlers, one after the other. -/
inductive HandlersShow : List HandlerCourse → List Handler → Prop
  | nil : HandlersShow [] []
  | cons {parameter exceptionType : Option String} {course : Course} {body : List Stmt}
      {courses : List HandlerCourse} {handlers : List Handler} (showsBody : course.Shows body)
      (showRest : HandlersShow courses handlers) :
      HandlersShow (⟨parameter, course⟩ :: courses) (⟨parameter, exceptionType, body⟩ :: handlers)

end

mutual

/-- The variables that a statement gives a value to. -/
def Outline.writes : Outline → List String
  | .assign name _ => [name]
  | .evaluate _ | .forget _ | .return _ => []
  | .branch _ _ accepted rejected => accepted.writes ++ rejected.writes
  | .loop _ _ _ body | .block body => body.writes
  | .attempt body _ handlers final =>
      body.writes ++ writesOfHandlers handlers ++ final.writes

/-- The variables that the statements give a value to. -/
def Course.writes : Course → List String
  | .done _ => []
  | .step _ outline rest => outline.writes ++ rest.writes

/-- The variables that the bodies of handlers give a value to. -/
def writesOfHandlers : List HandlerCourse → List String
  | [] => []
  | ⟨_, course⟩ :: rest => course.writes ++ writesOfHandlers rest

end

/-- Statements that are absent give values to no variables. -/
theorem Stmt.writesOfAll_getD (stmts : Option (List Stmt)) :
    writesOfAll (stmts.getD []) = writesOfOption stmts := by
  cases stmts with
  | none => rfl
  | some stmts => rfl

mutual

/-- An outline gives values to the variables of the statement. -/
theorem Outline.Shows.writes {outline : Outline} {stmt : Stmt} :
    outline.Shows stmt → outline.writes = stmt.writes
  | .initial | .declare | .assign | .evaluate | .return => rfl
  | .branch showsAccepted showsRejected => by
      rw [Outline.writes, Stmt.writes, showsAccepted.writes, showsRejected.writes,
        Stmt.writesOfAll_getD]
  | .loop showsBody => by rw [Outline.writes, Stmt.writes, showsBody.writes]
  | .block showsBody => by rw [Outline.writes, Stmt.writes, showsBody.writes]
  | .attempt showsBody showHandlers showsFinal => by
      rw [Outline.writes, Stmt.writes, showsBody.writes, showHandlers.writes, showsFinal.writes,
        Stmt.writesOfAll_getD]

theorem Course.Shows.writes {course : Course} {stmts : List Stmt} :
    course.Shows stmts → course.writes = Stmt.writesOfAll stmts
  | .done => rfl
  | .step showsFirst showsRest => by
      rw [Course.writes, Stmt.writesOfAll, showsFirst.writes, showsRest.writes]

theorem HandlersShow.writes {courses : List HandlerCourse} {handlers : List Handler} :
    HandlersShow courses handlers → writesOfHandlers courses = Stmt.writesOfHandlers handlers
  | .nil => rfl
  | .cons showsBody showRest => by
      rw [writesOfHandlers, Stmt.writesOfHandlers, showsBody.writes, showRest.writes]

end

namespace Build

mutual

/-- Adds the nodes of a statement, and answers its outline and the environment behind it. -/
def outlineStmt (context : BuildContext) :
    Stmt → Environment → Build (Outline × Environment)
  | .declare name typeName initial span, environment => nested context do
      declareType name typeName
      match initial with
      | some value =>
          return (.assign name value, ← assign context name value span environment)
      | none => return (.forget name, environment.forget name)
  | .assign target value span, environment => nested context do
      return (.assign target value, ← assign context target value span environment)
  | .evaluate expr _, environment => nested context do
      let _ ← lower context environment expr
      return (.evaluate expr, environment)
  | .branch test accepted rejected span, environment => nested context do
      let _ ← lower context environment test
      let guard ← addGuard context environment test span
      let whenTrue ← outlineAll context accepted
        (← refine context guard true environment)
      let whenFalse ← outlineOption context rejected
        (← refine context guard false environment)
      return (.branch test guard.id whenTrue whenFalse,
        ← join context [whenTrue.atEnd, whenFalse.atEnd] span)
  | .loop test body span, environment => nested context do
      let (nodes, head) ← addLoopNodes context span environment (Stmt.assigned body)
        { environment with
          aliases := AliasTable.atLoopHead environment.aliases (AliasTable.after body) }
      let _ ← lower context head test
      let guard ← addGuard context head test span
      let round ← outlineAll context body (← refine context guard true head)
      if round.atEnd.reachable then addBackEdges round.atEnd nodes
      return (.loop test guard.id head round, ← refine context guard false head)
  | .block body, environment => nested context do
      let inside ← outlineAll context body environment
      return (.block inside, inside.atEnd)
  | .attempt body handlers final, environment => nested context do
      let inside ← outlineAll context body environment
      let start ← join context [environment, inside.atEnd] .zero
      let handled ← outlineHandlers context start handlers
      let joined ← join context
        (inside.atEnd :: handled.map fun handler => handler.course.atEnd) .zero
      let atLast ← outlineOption context final joined
      return (.attempt inside start handled atLast, atLast.atEnd)
  | .return value span, environment => nested context do
      match value with
      | some value => lowerReturn context value span environment
      | none => pure ()
      return (.return value, { environment with reachable := false })

/-- Adds the nodes of statements one after the other. -/
def outlineAll (context : BuildContext) : List Stmt → Environment → Build Course
  | [], environment => return .done environment
  | stmt :: rest, environment => do
      let (outline, after) ← outlineStmt context stmt environment
      return .step environment outline (← outlineAll context rest after)

/-- Adds the nodes of statements that may be absent. -/
def outlineOption (context : BuildContext) :
    Option (List Stmt) → Environment → Build Course
  | none, environment => return .done environment
  | some stmts, environment => outlineAll context stmts environment

/-- Adds the nodes of handlers, each of which starts from the same environment. -/
def outlineHandlers (context : BuildContext) (start : Environment) :
    List Handler → Build (List HandlerCourse)
  | [] => return []
  | ⟨parameter, exceptionType, body⟩ :: rest => do
      let inside ← match parameter with
        | some name => do
            declareType name exceptionType
            pure (start.forget name)
        | none => pure start
      let course ← outlineAll context body inside
      return ⟨parameter, course⟩ :: (← outlineHandlers context start rest)

end

/-- What is made of a value does not depend on the level. -/
theorem map_nested {First Second : Type} (context : BuildContext) (change : First → Second)
    (step : Build First) : change <$> nested context step = nested context (change <$> step) := by
  simp [nested]

mutual

/-- Outlining a statement adds to the draft what the construction adds. -/
theorem outlineStmt_eq (context : BuildContext) : (stmt : Stmt) → (environment : Environment) →
    Prod.snd <$> outlineStmt context stmt environment = addStmt context stmt environment
  | .declare name typeName initial span, environment => by
      unfold outlineStmt addStmt
      cases initial <;> simp [map_nested]
  | .assign target value span, environment => by
      simp [outlineStmt, addStmt, map_nested]
  | .evaluate expr _, environment => by
      simp [outlineStmt, addStmt, map_nested]
  | .branch test accepted rejected span, environment => by
      simp [outlineStmt, addStmt, map_nested, ← outlineAll_eq, ← outlineOption_eq]
  | .loop test body span, environment => by
      simp [outlineStmt, addStmt, map_nested, ← outlineAll_eq, apply_ite (Functor.map Prod.snd)]
  | .block body, environment => by
      simp [outlineStmt, addStmt, map_nested, ← outlineAll_eq]
  | .attempt body handlers final, environment => by
      simp [outlineStmt, addStmt, map_nested, ← outlineAll_eq, ← outlineOption_eq,
        ← outlineHandlers_eq]
  | .return value span, environment => by
      unfold outlineStmt addStmt
      cases value <;> simp [map_nested]

theorem outlineAll_eq (context : BuildContext) : (stmts : List Stmt) → (environment : Environment) →
    Course.atEnd <$> outlineAll context stmts environment = addAll context stmts environment
  | [], environment => by
      simp [outlineAll, addAll, Course.atEnd]
  | stmt :: rest, environment => by
      simp [outlineAll, addAll, ← outlineStmt_eq, ← outlineAll_eq, Course.atEnd]

theorem outlineOption_eq (context : BuildContext) : (stmts : Option (List Stmt)) →
    (environment : Environment) →
    Course.atEnd <$> outlineOption context stmts environment = addOption context stmts environment
  | none, environment => by
      simp [outlineOption, addOption, Course.atEnd]
  | some stmts, environment => by
      simp [outlineOption, addOption, ← outlineAll_eq]

theorem outlineHandlers_eq (context : BuildContext) : (handlers : List Handler) →
    (start : Environment) →
    (List.map fun handler => handler.course.atEnd) <$> outlineHandlers context start handlers =
      addHandlers context start handlers
  | [], start => by
      simp [outlineHandlers, addHandlers]
  | ⟨parameter, exceptionType, body⟩ :: rest, start => by
      unfold outlineHandlers addHandlers
      cases parameter <;> simp [← outlineAll_eq, ← outlineHandlers_eq]

end

/-- Adds the nodes of a whole procedure, and answers the outline of its body. -/
def outlineProcedure (context : BuildContext) : Build Course := do
  let environment ← addParameters context context.procedure.parameters .entry
  outlineAll context context.procedure.body environment

theorem outlineProcedure_eq (context : BuildContext) :
    Course.atEnd <$> outlineProcedure context = addProcedure context := by
  simp [outlineProcedure, addProcedure, ← outlineAll_eq]

end Build

namespace FlowGraph

/-- The outline of a procedure's body and the flow graph of the procedure. -/
def outline (catalog : Catalog) (unitConstants : StringMap String) (procedure : Procedure) :
    Except BuildError (Course × FlowGraph) :=
  match (Build.outlineProcedure ⟨catalog, unitConstants, procedure⟩).run .empty with
  | .ok (course, draft) =>
      .ok (course, draft.graph procedure.name)
  | .error error => .error error

/-- The graph beside an outline is the graph that is built. -/
theorem outline_eq (catalog : Catalog) (unitConstants : StringMap String) (procedure : Procedure) :
    Prod.snd <$> outline catalog unitConstants procedure =
      build catalog unitConstants procedure := by
  unfold outline build
  rw [← Build.outlineProcedure_eq]
  simp only [StateT.run_map]
  cases (Build.outlineProcedure ⟨catalog, unitConstants, procedure⟩).run .empty with
  | ok result => rfl
  | error error => rfl

/-- A graph that is built has an outline beside it. -/
theorem outline_of_build {catalog : Catalog} {unitConstants : StringMap String}
    {procedure : Procedure} {graph : FlowGraph}
    (built : build catalog unitConstants procedure = .ok graph) :
    ∃ course draft, outline catalog unitConstants procedure = .ok (course, graph) ∧
      (Build.outlineProcedure ⟨catalog, unitConstants, procedure⟩).run .empty =
        .ok (course, draft) ∧
      graph = draft.graph procedure.name := by
  rw [← outline_eq] at built
  unfold outline at *
  split at built
  · rename_i course draft ends
    obtain rfl := Except.ok.inj built
    exact ⟨course, draft, rfl, ends, rfl⟩
  · exact nomatch built

end FlowGraph

namespace DecodingLoop

/-- The environment in which a node holds the path. -/
def environment (node : Nat) : Environment := ⟨StringMap.empty.insert "path" node, .empty, true⟩

def course : Course :=
  .step .entry (.assign "path" (.localCall "getParameter" []))
    (.step (environment 1)
      (.loop (.methodCall (.variable "path") "contains" [.literal "%"]) 0 (environment 2)
        (.step (environment 5) (.assign "path" (.localCall "decode" [.variable "path"]))
          (.done (environment 7))))
      (.step (environment 8) (.evaluate (.localCall "forward" [.variable "path"]))
        (.done (environment 8))))

theorem outline_eq : FlowGraph.outline catalog .empty procedure = .ok (course, graph) := by
  cbv

end DecodingLoop

end ForwardTaint
