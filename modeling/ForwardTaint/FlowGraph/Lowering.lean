import ForwardTaint.FlowGraph.Draft

/-!
Nodes for expressions: one node for each part, with edges from the parts that its value is made
of.
-/

namespace ForwardTaint

/-- The kind of node of a call with a role. -/
def CallRole.nodeKind : CallRole → NodeKind
  | .source => .sourceCall
  | .sink arguments => .sinkCall arguments
  | .sanitizer kind => .sanitizerCall kind
  | .neutral => .call

namespace Build

/-- The node that a variable is read from: that of its definition, or one for the constant, or one
that all reads without a definition share. -/
def readVariable (context : BuildContext) (environment : Environment) (name : String) :
    Build Nat :=
  match environment.definitions.get? name with
  | some node => return node
  | none =>
      match context.constant? name with
      | some value => addNode context .literal value .zero (some name)
      | none => do
          match (← get).undefinedReads.get? name with
          | some node => return node
          | none =>
              let node ← addNode context .variableRef name .zero (some name)
              modify fun draft =>
                { draft with undefinedReads := draft.undefinedReads.insert name node }
              return node

/-- The type of a call's receiver: the written one, or the declared type of the variable. -/
def receiverType (receiver : Option Expr) (written : Option String) : Build (Option String) := do
  let declared := (← get).declaredTypes
  return written.or ((receiver.bind Expr.asVariable).bind declared.get?)

mutual

/-- Adds the nodes of an expression, and answers the one of its value. -/
def lower (context : BuildContext) (environment : Environment) : Expr → Build Nat
  | .literal value => nested context (addNode context .literal value .zero none)
  | .null => nested context (addNode context .literal "null" .zero none)
  | .variable name => nested context (readVariable context environment name)
  | .call receiver written method arguments span => nested context do
      let receiverNode ← lowerOption context environment receiver
      let nodes ← lowerAll context environment arguments
      let signature := CallSignature.method (← receiverType receiver written) method
        arguments.length
      let text := (Expr.call receiver written method arguments span).text
      let node ← addNode context (context.catalog.classify signature).nodeKind text span none
      addEdges node ((receiverNode.toList.map fun source => (source, .receiver))
        ++ asArguments 0 nodes)
      return node
  | .construct className arguments span => nested context do
      let nodes ← lowerAll context environment arguments
      let signature := CallSignature.constructor className arguments.length
      let text := (Expr.construct className arguments span).text
      let node ← addNode context (context.catalog.classify signature).nodeKind text span none
      addEdges node (asArguments 0 nodes)
      return node
  | .concat operands span => nested context do
      let nodes ← lowerOperands context environment 0 false operands
      let node ← addNode context .concat (Expr.concat operands span).text span none
      addEdges node nodes
      return node
  | .not operand => nested context do
      let operandNode ← lower context environment operand
      addTest context (.not operand) [operandNode]
  | .and left right => nested context do
      let leftNode ← lower context environment left
      let rightNode ← lower context environment right
      addTest context (.and left right) [leftNode, rightNode]
  | .or left right => nested context do
      let leftNode ← lower context environment left
      let rightNode ← lower context environment right
      addTest context (.or left right) [leftNode, rightNode]
  | .compare comparison left right => nested context do
      let leftNode ← lower context environment left
      let rightNode ← lower context environment right
      addTest context (.compare comparison left right) [leftNode, rightNode]
  | .cast _ operand => nested context (lower context environment operand)

/-- Adds the nodes of an expression that may be absent. -/
def lowerOption (context : BuildContext) (environment : Environment) :
    Option Expr → Build (Option Nat)
  | none => return none
  | some expr => do return some (← lower context environment expr)

/-- Adds the nodes of expressions one after the other. -/
def lowerAll (context : BuildContext) (environment : Environment) :
    List Expr → Build (List Nat)
  | [] => return []
  | expr :: rest => do
      let node ← lower context environment expr
      return node :: (← lowerAll context environment rest)

/-- Adds the nodes of operands, the first of them with `index`; what stands behind a known text
with a question mark is a query string. -/
def lowerOperands (context : BuildContext) (environment : Environment) (index : Nat)
    (inQuery : Bool) : List Expr → Build (List (Nat × EdgeKind))
  | [] => return []
  | operand :: rest => do
      let node ← lower context environment operand
      let opensQuery := (context.knownString? operand).any (Text.contains "?")
      let nodes ← lowerOperands context environment (index + 1) (inQuery || opensQuery) rest
      return (node, if inQuery then .queryString else .concatOperand index) :: nodes

/-- Adds the node of a test with the nodes of its parts. -/
def addTest (context : BuildContext) (test : Expr) (parts : List Nat) : Build Nat := do
  let node ← addNode context .call test.text test.span none
  addEdges node (asArguments 0 parts)
  return node

end

end Build

end ForwardTaint
