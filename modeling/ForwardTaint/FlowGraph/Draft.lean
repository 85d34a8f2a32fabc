import ForwardTaint.Catalog.Catalog
import ForwardTaint.FlowGraph.Graph
import ForwardTaint.Guard.Decomposition

/-!
Flow graphs in the making.  Steps of the construction take a draft and leave a larger one, or
fail; the places of a procedure carry an environment that says which node holds each variable.
-/

namespace ForwardTaint

/-- The greatest number of nodes of a graph. -/
def maxNodes : Nat := 200000

/-- Why a procedure has no flow graph. -/
inductive BuildError where
  | duplicateParameter (procedureName name : String)
  | nodeLimit (procedureName : String)
  | nestingLimit (procedureName : String)
  deriving DecidableEq

def BuildError.message : BuildError → String
  | .duplicateParameter procedureName name =>
      "procedure '" ++ procedureName ++ "' declares parameter '" ++ name ++ "' twice"
  | .nodeLimit procedureName =>
      "procedure '" ++ procedureName ++ "' exceeds " ++ toString maxNodes ++ " graph nodes"
  | .nestingLimit procedureName =>
      "procedure '" ++ procedureName ++ "' nests deeper than " ++ toString maxNesting ++ " levels"

/-- What is known at a place of the procedure: the node that holds each variable, the flags that
stand for a test, and whether control can come here. -/
structure Environment where
  definitions : StringMap Nat
  aliases : AliasTable
  reachable : Bool

namespace Environment

/-- The environment at the beginning of a procedure. -/
def entry : Environment := ⟨.empty, .empty, true⟩

/-- The environment after a variable loses its definition. -/
def forget (environment : Environment) (name : String) : Environment :=
  { environment with
    definitions := environment.definitions.erase name
    aliases := AliasTable.invalidate environment.aliases name }

/-- The environment in which a node holds a variable. -/
def define (environment : Environment) (name : String) (node : Nat) : Environment :=
  { environment with definitions := environment.definitions.insert name node }

end Environment

/-- The graph so far, the declared types of variables, the nodes of variables that are read without a
definition, and how many statements and expressions the construction is inside of. -/
structure Draft where
  nodes : Array FlowNode
  edges : List Edge
  guards : Array GuardCondition
  sources : List Nat
  sinks : List Nat
  declaredTypes : StringMap String
  undefinedReads : StringMap Nat
  depth : Nat

namespace Draft

/-- The draft of a graph without nodes. -/
def empty : Draft := ⟨#[], [], #[], [], [], .empty, .empty, 0⟩

/-- The draft with one more node, which is noted as a source or a sink if it is one. -/
def push (draft : Draft) (node : FlowNode) : Draft :=
  let number := draft.nodes.size
  { draft with
    nodes := draft.nodes.push node
    sources := if node.isSource then draft.sources ++ [number] else draft.sources
    sinks := if node.isSink then draft.sinks ++ [number] else draft.sinks }

/-- The finished graph of a procedure. -/
def graph (draft : Draft) (procedureName : String) : FlowGraph where
  procedureName := procedureName
  nodes := draft.nodes
  edges := draft.edges
  guards := draft.guards
  sources := draft.sources
  sinks := draft.sinks

end Draft

/-- What the construction knows of the procedure from the start. -/
structure BuildContext where
  catalog : Catalog
  unitConstants : StringMap String
  procedure : Procedure

namespace BuildContext

/-- The text of a constant; those of the procedure hide those of the unit. -/
def constant? (context : BuildContext) (name : String) : Option String :=
  (context.procedure.constants.get? name).or (context.unitConstants.get? name)

/-- What names mean in an environment. -/
def scope (context : BuildContext) (environment : Environment) : Scope where
  isDefined := environment.definitions.contains
  constant? := context.constant?
  aliases := environment.aliases

/-- The text that a literal or the name of a constant stands for. -/
def knownString? (context : BuildContext) : Expr → Option String
  | .literal value => some value
  | .variable name => context.constant? name
  | _ => none

end BuildContext

/-- A step of the construction. -/
abbrev Build (Value : Type) : Type := StateT Draft (Except BuildError) Value

namespace Build

/-- Adds a node. -/
def addNode (context : BuildContext) (kind : NodeKind) (text : String) (span : Span)
    (variableName : Option String) : Build Nat := do
  let draft ← get
  if maxNodes ≤ draft.nodes.size then throw (.nodeLimit context.procedure.name)
  else
    set (draft.push ⟨kind, text, span, variableName⟩)
    return draft.nodes.size

/-- Adds an edge. -/
def addEdge (source target : Nat) (label : EdgeLabel) : Build Unit :=
  modify fun draft => { draft with edges := ⟨source, target, label⟩ :: draft.edges }

/-- Adds an edge from each node of a list, in its order. -/
def addEdges (target : Nat) : List (Nat × EdgeKind) → Build Unit
  | [] => return ()
  | (source, kind) :: rest => do
      addEdge source target (.plain kind)
      addEdges target rest

/-- Numbers nodes as arguments, the first of them with `index`. -/
def asArguments (index : Nat) : List Nat → List (Nat × EdgeKind)
  | [] => []
  | node :: rest => (node, .argument index) :: asArguments (index + 1) rest

/-- Goes one level deeper, unless that is too deep. -/
def enter (context : BuildContext) : Build Unit := do
  modify fun draft => { draft with depth := draft.depth + 1 }
  if maxNesting < (← get).depth then throw (.nestingLimit context.procedure.name)
  else return ()

/-- Gives a level back. -/
def leave : Build Unit := modify fun draft => { draft with depth := draft.depth - 1 }

/-- Takes a step one level deeper.  No level is given back behind a step that fails, as the whole
construction ends there. -/
def nested {Value : Type} (context : BuildContext) (step : Build Value) : Build Value := do
  enter context
  let value ← step
  leave
  return value

/-- Records the declared type of a variable. -/
def declareType (name : String) (typeName : Option String) : Build Unit :=
  match typeName with
  | some typeName =>
      modify fun draft => { draft with declaredTypes := draft.declaredTypes.insert name typeName }
  | none => return ()

end Build

end ForwardTaint
