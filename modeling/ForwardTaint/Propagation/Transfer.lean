import ForwardTaint.Barrier.Registry
import ForwardTaint.FlowGraph.Graph

/-!
What a node does to the value that reaches it.  A node that changes the text of a value drops the
checks that it passed; a guard adds the checks of its outcome, and stops the value when a barrier
rule finds the guard effective.
-/

namespace ForwardTaint

namespace TaintValue

/-- The value of a concatenation in which the value stands. -/
def concatenated (value : TaintValue) : TaintValue :=
  canonicalForm { value with
    processing := { value.processing with normalized := false }
    checks := .empty }

/-- The value that a call makes of the value. -/
def throughCall (value : TaintValue) : TaintValue :=
  canonicalForm { value with
    processing := { value.processing with normalized := false, caseFolded := false }
    checks := .empty }

/-- The value after one percent-decoding, which can bring anything to light. -/
def decoded (value : TaintValue) : TaintValue where
  state := value.state
  processing := { value.processing with
    decode := if value.processing.decode = .raw then .once else value.processing.decode
    encodingSeen := false
    normalized := false
    caseFolded := false }
  checks := .empty

/-- The value with its dot segments removed, which is final only when no escape is left. -/
def normalized (value : TaintValue) : TaintValue :=
  if value.processing.decode = .canonical then
    { value with processing := { value.processing with normalized := true } }
  else { value with processing := { value.processing with normalizedBeforeDecode := true } }

/-- The value in letters of one case. -/
def caseFolded (value : TaintValue) : TaintValue :=
  { value with processing := { value.processing with caseFolded := true } }

/-- The value behind a sanitizer. -/
def sanitized (kind : SanitizerKind) (value : TaintValue) : TaintValue :=
  if value.isClean then clean
  else match kind with
    | .decode => value.decoded
    | .normalize => value.normalized
    | .caseFold => value.caseFolded

end TaintValue

/-- The value at a node, with the evaluation of its guard if there was one. -/
structure NodeOutput where
  value : TaintValue
  evaluation : Option BarrierEvaluation

/-- The values at the nodes of a graph, by their numbers. -/
abbrev NodeValues := Array TaintValue

/-- The value at a node. -/
def NodeValues.at (values : NodeValues) (node : Nat) : TaintValue := values.getD node .clean

/-- The least value above those at some nodes. -/
def NodeValues.joined (values : NodeValues) (nodes : List Nat) : TaintValue :=
  nodes.foldl (fun value node => value.join (values.at node)) .clean

namespace FlowGraph

/-- The value that reaches a node. -/
def input (graph : FlowGraph) (values : NodeValues) (node : Nat) : TaintValue :=
  values.joined (graph.taintSources node)

/-- The output of a guard node for a variable.  A clean value needs no guard, and a value that the
guard does not know is left as it is. -/
def guardOutput (graph : FlowGraph) (registry : BarrierRegistry) (guard : Nat) (outcome : Bool)
    (variableName : Option String) (input : TaintValue) : NodeOutput :=
  if input.isClean then ⟨.clean, none⟩
  else match graph.guards[guard]?, variableName with
    | some condition, some subject =>
        let atoms := condition.atomsOf subject outcome
        let refined := GuardAtom.applyAll input atoms
        let evaluation := registry.evaluate condition outcome subject atoms refined
        ⟨if evaluation.verdict.isEffective then .clean else refined, some evaluation⟩
    | _, _ => ⟨input, none⟩

/-- The output of a node when taint begins at the node `seed` only. -/
def transfer (graph : FlowGraph) (registry : BarrierRegistry) (seed : Nat) (values : NodeValues)
    (number : Nat) (node : FlowNode) : NodeOutput :=
  match node.kind with
  | .sourceCall => ⟨if number = seed then .tainted else .clean, none⟩
  | .literal => ⟨.clean, none⟩
  | .variableRef =>
      ⟨if (graph.taintSources number).isEmpty then .unknown else graph.input values number, none⟩
  | .phi => ⟨graph.input values number, none⟩
  | .concat => ⟨(graph.input values number).concatenated, none⟩
  | .call | .sinkCall _ => ⟨(graph.input values number).throughCall, none⟩
  | .sanitizerCall kind => ⟨(graph.input values number).sanitized kind, none⟩
  | .guard guard outcome =>
      graph.guardOutput registry guard outcome node.variableName (graph.input values number)

end FlowGraph

end ForwardTaint
