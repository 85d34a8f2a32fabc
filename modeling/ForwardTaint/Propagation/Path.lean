import ForwardTaint.FlowGraph.Graph
import ForwardTaint.Report.Finding

/-!
Shortest ways of taint through a graph, as they are shown with findings.
-/

namespace ForwardTaint.FlowGraph

/-- Follows taint from the nodes of a queue, each with the way to it backwards, until `goal` comes
to the front, and answers the way there.  Each node enters the queue once, so as many rounds as
there are nodes suffice. -/
def searchPath (graph : FlowGraph) (admits : Nat → Bool) (goal : Nat) :
    Nat → List (Nat × List Nat) → List Nat → Option (List Nat)
  | 0, _, _ => none
  | _, [], _ => none
  | rounds + 1, (node, way) :: queue, seen =>
      if node = goal then some (node :: way).reverse
      else
        let new := ((graph.taintTargets node).filter fun next =>
          admits next && !seen.contains next).eraseDups
        searchPath graph admits goal rounds (queue ++ new.map fun next => (next, node :: way))
          (seen ++ new)

/-- A shortest way of taint through admitted nodes; the two ends where there is none. -/
def shortestPath (graph : FlowGraph) (admits : Nat → Bool) (source goal : Nat) : List Nat :=
  (graph.searchPath admits goal graph.nodes.size [(source, [])] [source]).getD [source, goal]

/-- A way shortened to at most so many nodes, and never to less than its two ends: nodes before the
last one are left out. -/
def shortened (maxLength : Nat) (path : List Nat) : List Nat :=
  let limit := max maxLength 2
  if path.length ≤ limit then path else path.take (limit - 1) ++ path.getLast?.toList

/-- A node as a step of a path. -/
def pathStep (graph : FlowGraph) (number : Nat) : PathStep :=
  match graph.nodes[number]? with
  | some node => ⟨number, node.kind.label, node.text, node.span⟩
  | none => ⟨number, "", "", .zero⟩

end ForwardTaint.FlowGraph
