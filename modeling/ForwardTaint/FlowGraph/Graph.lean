import ForwardTaint.Ascending
import ForwardTaint.FlowGraph.Node
import ForwardTaint.Guard.Condition

/-!
Flow graphs: the values of one procedure and the ways on which they reach each other.  Nodes are
numbered from zero; the edges stand with the latest one first.
-/

namespace ForwardTaint

/-- An edge between two nodes. -/
structure Edge where
  source : Nat
  target : Nat
  label : EdgeLabel
  deriving DecidableEq

/-- The flow graph of a procedure, with the tests that its guard nodes refer to, the nodes where taint
begins and those where it must not arrive. -/
structure FlowGraph where
  procedureName : String
  nodes : Array FlowNode
  edges : List Edge
  guards : Array GuardCondition
  sources : List Nat
  sinks : List Nat

namespace FlowGraph

/-- The edges into a node. -/
def incoming (graph : FlowGraph) (node : Nat) : List Edge :=
  graph.edges.filter fun edge => edge.target == node

/-- The edges out of a node. -/
def outgoing (graph : FlowGraph) (node : Nat) : List Edge :=
  graph.edges.filter fun edge => edge.source == node

/-- The nodes from which taint reaches a node in one step. -/
def taintSources (graph : FlowGraph) (node : Nat) : List Nat :=
  ((graph.incoming node).filter fun edge => edge.label.carriesTaint).map Edge.source

/-- The nodes that taint reaches from a node in one step. -/
def taintTargets (graph : FlowGraph) (node : Nat) : List Nat :=
  ((graph.outgoing node).filter fun edge => edge.label.carriesTaint).map Edge.target

/-- The nodes that a sink takes its checked arguments from. -/
def sinkArguments (graph : FlowGraph) (sink : Nat) : List Nat :=
  match graph.nodes[sink]?.map FlowNode.kind with
  | some (.sinkCall positions) =>
      Ascending.ofList ((graph.incoming sink).filterMap fun edge =>
        match edge.label.kind with
        | .argument index => if positions.contains index then some edge.source else none
        | _ => none)
  | _ => []

/-- Adds to the nodes seen all that `next` leads to from those of a queue.  A node enters the queue
when it is first seen, so as many rounds as there are nodes suffice. -/
def explore (next : Nat → List Nat) : Nat → List Nat → Array Bool → Array Bool
  | 0, _, seen => seen
  | _, [], seen => seen
  | rounds + 1, node :: queue, seen =>
      let new := ((next node).filter fun other => seen[other]? == some false).eraseDups
      explore next rounds (queue ++ new)
        (new.foldl (fun seen other => seen.set! other true) seen)

/-- Marks the nodes that `next` leads to from some nodes, those among them. -/
def exploreFrom (graph : FlowGraph) (next : Nat → List Nat) (starts : List Nat) : Array Bool :=
  let count := graph.nodes.size
  let starts := (starts.filter (· < count)).eraseDups
  explore next count starts
    (starts.foldl (fun seen start => seen.set! start true) (Array.replicate count false))

/-- Marks the nodes that taint can reach from a node. -/
def reachableFrom (graph : FlowGraph) (start : Nat) : Array Bool :=
  graph.exploreFrom graph.taintTargets [start]

/-- Marks the nodes from which taint can reach one of the targets. -/
def reaching (graph : FlowGraph) (targets : List Nat) : Array Bool :=
  graph.exploreFrom graph.taintSources targets

/-- The number of atoms of all tests, which bounds the checks that a value can hold. -/
def atomCount (graph : FlowGraph) : Nat :=
  graph.guards.toList.foldl (fun count guard =>
    count + guard.onTrue.length + guard.onFalse.length) 0

end FlowGraph

end ForwardTaint
