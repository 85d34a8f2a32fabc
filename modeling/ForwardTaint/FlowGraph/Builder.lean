import ForwardTaint.FlowGraph.Lowering

/-!
The flow graph of a procedure.  Each write of a variable is a node of its own; where ways meet, a
node joins the definitions that differ; the branches of a test see the variables it checks through
guard nodes.
-/

namespace ForwardTaint

namespace Build

/-- Lets the outcome of a test refine the variables that it says something of. -/
def refineAll (context : BuildContext) (guard : GuardCondition) (outcome : Bool) :
    List String → Environment → Build Environment
  | [], environment => return environment
  | subject :: rest, environment =>
      match environment.definitions.get? subject with
      | none => refineAll context guard outcome rest environment
      | some definition => do
          let text := guard.text ++ (if outcome then " [true]" else " [false]")
          let node ← addNode context (.guard guard.id outcome) text guard.span (some subject)
          addEdge definition node (.refinement guard.id outcome)
          refineAll context guard outcome rest (environment.define subject node)

/-- The environment where a test has the outcome. -/
def refine (context : BuildContext) (guard : GuardCondition) (outcome : Bool)
    (environment : Environment) : Build Environment :=
  refineAll context guard outcome (guard.subjects outcome) environment

/-- Takes a test apart and records it. -/
def addGuard (context : BuildContext) (environment : Environment) (test : Expr) (span : Span) :
    Build GuardCondition := do
  let guard := (context.scope environment).decompose (← get).guards.size test span
  modify fun draft => { draft with guards := draft.guards.push guard }
  return guard

/-- The node that holds a variable where ways meet: the definition they agree on, or a new node
that joins those that differ. -/
def joinDefinition (context : BuildContext) (live : List Environment) (span : Span)
    (name : String) : Build Nat := do
  match Ascending.ofList (live.filterMap fun environment => environment.definitions.get? name) with
  | [definition] => return definition
  | incoming =>
      let node ← addNode context .phi ("join " ++ name) span (some name)
      addEdges node (incoming.map fun definition => (definition, .join))
      return node

/-- Joins the definitions of each name in environments that control can come from. -/
def joinDefinitions (context : BuildContext) (live : List Environment) (span : Span) :
    List String → Build (StringMap Nat)
  | [] => return .empty
  | name :: rest => do
      let node ← joinDefinition context live span name
      return (← joinDefinitions context live span rest).insert name node

/-- The environment where ways meet. -/
def join (context : BuildContext) (environments : List Environment) (span : Span) :
    Build Environment :=
  match environments.filter Environment.reachable with
  | [] => return { environments.headD .entry with reachable := false }
  | [single] => return single
  | first :: rest => do
      let live := first :: rest
      let names := StringMap.allNames (live.map Environment.definitions)
      let definitions ← joinDefinitions context live span names
      let aliases := rest.foldl (fun table environment =>
        AliasTable.intersect table environment.aliases) first.aliases
      return ⟨definitions, aliases, true⟩

/-- Gives a variable the value of an expression. -/
def assign (context : BuildContext) (name : String) (value : Expr) (span : Span)
    (environment : Environment) : Build Environment := do
  let valueNode ← lower context environment value
  let node ← addNode context .variableRef (name ++ " = " ++ value.text) span (some name)
  addEdge valueNode node (.plain .assign)
  return { environment.define name node with
    aliases := AliasTable.assign environment.aliases name value }

/-- Whether a returned expression is a forward: its text, or the first operand of a concatenation,
is known and begins like a forward. -/
def isForwardReturn (context : BuildContext) (value : Expr) : Bool :=
  let leading := match value with
    | .concat operands _ => operands.head?
    | value => some value
  (leading.bind context.knownString?).any context.catalog.isForwardPrefix

/-- Adds the nodes of a returned value; a handler that returns a forward has a sink there. -/
def lowerReturn (context : BuildContext) (value : Expr) (span : Span)
    (environment : Environment) : Build Unit := do
  let node ← lower context environment value
  if context.catalog.isRequestHandler context.procedure && isForwardReturn context value then
    let sink ← addNode context (.sinkCall [0]) ("return " ++ value.text) span none
    addEdge node sink (.plain (.argument 0))
  else return ()

/-- Adds a node at the head of a loop for each variable that is defined there and written in the
body. -/
def addLoopNodes (context : BuildContext) (span : Span) (entry : Environment) :
    List String → Environment → Build (List (String × Nat) × Environment)
  | [], head => return ([], head)
  | name :: rest, head =>
      match entry.definitions.get? name with
      | none => addLoopNodes context span entry rest head
      | some definition => do
          let node ← addNode context .phi ("loop " ++ name) span (some name)
          addEdge definition node (.plain .join)
          let (nodes, head) ← addLoopNodes context span entry rest (head.define name node)
          return ((name, node) :: nodes, head)

/-- Leads the definitions at the end of a loop's body back to its head. -/
def addBackEdges (atEnd : Environment) : List (String × Nat) → Build Unit
  | [] => return ()
  | (name, node) :: rest => do
      match atEnd.definitions.get? name with
      | some definition =>
          if definition = node then addBackEdges atEnd rest
          else
            addEdge definition node (.plain .loopBack)
            addBackEdges atEnd rest
      | none => addBackEdges atEnd rest

mutual

/-- Adds the nodes of a statement, and answers the environment behind it. -/
def addStmt (context : BuildContext) : Stmt → Environment → Build Environment
  | .declare name typeName initial span, environment => nested context do
      declareType name typeName
      match initial with
      | some value => assign context name value span environment
      | none => return environment.forget name
  | .assign target value span, environment =>
      nested context (assign context target value span environment)
  | .evaluate expr _, environment => nested context do
      let _ ← lower context environment expr
      return environment
  | .branch test accepted rejected span, environment => nested context do
      let _ ← lower context environment test
      let guard ← addGuard context environment test span
      let afterAccepted ← addAll context accepted (← refine context guard true environment)
      let afterRejected ← addOption context rejected (← refine context guard false environment)
      join context [afterAccepted, afterRejected] span
  | .loop test body span, environment => nested context do
      let (nodes, head) ← addLoopNodes context span environment (Stmt.assigned body)
        { environment with
          aliases := AliasTable.atLoopHead environment.aliases (AliasTable.after body) }
      let _ ← lower context head test
      let guard ← addGuard context head test span
      let atEnd ← addAll context body (← refine context guard true head)
      if atEnd.reachable then addBackEdges atEnd nodes
      refine context guard false head
  | .block body, environment => nested context (addAll context body environment)
  | .attempt body handlers final, environment => nested context do
      let atEnd ← addAll context body environment
      let start ← join context [environment, atEnd] .zero
      let ends ← addHandlers context start handlers
      let joined ← join context (atEnd :: ends) .zero
      addOption context final joined
  | .return value span, environment => nested context do
      match value with
      | some value => lowerReturn context value span environment
      | none => pure ()
      return { environment with reachable := false }

/-- Adds the nodes of statements one after the other. -/
def addAll (context : BuildContext) : List Stmt → Environment → Build Environment
  | [], environment => return environment
  | stmt :: rest, environment => do
      addAll context rest (← addStmt context stmt environment)

/-- Adds the nodes of statements that may be absent. -/
def addOption (context : BuildContext) :
    Option (List Stmt) → Environment → Build Environment
  | none, environment => return environment
  | some stmts, environment => addAll context stmts environment

/-- Adds the nodes of handlers, each of which starts from the same environment. -/
def addHandlers (context : BuildContext) (start : Environment) :
    List Handler → Build (List Environment)
  | [] => return []
  | ⟨parameter, exceptionType, body⟩ :: rest => do
      let inside ← match parameter with
        | some name => do
            declareType name exceptionType
            pure (start.forget name)
        | none => pure start
      let atEnd ← addAll context body inside
      return atEnd :: (← addHandlers context start rest)

end

/-- Adds the nodes of parameters, which must have different names. -/
def addParameters (context : BuildContext) :
    List Parameter → Environment → Build Environment
  | [], environment => return environment
  | parameter :: rest, environment => do
      if environment.definitions.contains parameter.name then
        throw (.duplicateParameter context.procedure.name parameter.name)
      let kind : NodeKind :=
        if context.catalog.isHandlerSource context.procedure parameter then .sourceCall
        else .variableRef
      let node ← addNode context kind (parameter.typeName ++ " " ++ parameter.name)
        context.procedure.span (some parameter.name)
      declareType parameter.name (some parameter.typeName)
      addParameters context rest (environment.define parameter.name node)

/-- Adds the nodes of a whole procedure. -/
def addProcedure (context : BuildContext) : Build Environment := do
  let environment ← addParameters context context.procedure.parameters .entry
  addAll context context.procedure.body environment

end Build

namespace FlowGraph

/-- The flow graph of a procedure. -/
def build (catalog : Catalog) (unitConstants : StringMap String) (procedure : Procedure) :
    Except BuildError FlowGraph :=
  match (Build.addProcedure ⟨catalog, unitConstants, procedure⟩).run .empty with
  | .ok (_, draft) => .ok (draft.graph procedure.name)
  | .error error => .error error

end FlowGraph

end ForwardTaint
