import ForwardTaint.Propagation.Deadline
import ForwardTaint.Propagation.Transfer
import ForwardTaint.Report.Finding

/-!
Propagation of taint from one source to all nodes.  A list holds the nodes that have to be looked
at: all of them at first, later those that a changed value reaches.  Values only climb, and each
look at a node is a visit; a procedure has a limited number of visits for all its sources.
-/

namespace ForwardTaint

/-- The work done for a procedure. -/
structure Effort where
  visits : Nat
  updates : Nat
  guardEvaluations : Nat
  deriving DecidableEq

namespace Effort

/-- No work. -/
def none : Effort := ⟨0, 0, 0⟩

end Effort

/-- Propagation that was given up, with the work done until then. -/
structure Interruption where
  reason : UnstableReason
  effort : Effort

/-- Propagation from one source under way. -/
structure SourceRun where
  seed : Nat
  values : NodeValues
  evaluations : Array (Option BarrierEvaluation)
  pending : List Nat

namespace SourceRun

/-- The run before its first visit. -/
def start (graph : FlowGraph) (seed : Nat) : SourceRun where
  seed := seed
  values := Array.replicate graph.nodes.size .clean
  evaluations := Array.replicate graph.nodes.size none
  pending := List.range graph.nodes.size

/-- The last evaluation of a guard node. -/
def evaluation? (run : SourceRun) (node : Nat) : Option BarrierEvaluation :=
  run.evaluations.getD node none

/-- Whether the value at a node is clean in the end. -/
def isCleanAt (run : SourceRun) (node : Nat) : Bool := (run.values.at node).isClean

/-- Puts a node at the end of the list unless it is there. -/
def enqueue (pending : List Nat) (node : Nat) : List Nat :=
  if pending.contains node then pending else pending ++ [node]

/-- The run after the value at a node has changed. -/
def update (graph : FlowGraph) (run : SourceRun) (node : Nat) (value : TaintValue) : SourceRun :=
  { run with
    values := run.values.setIfInBounds node value
    pending := (graph.taintTargets node).foldl enqueue run.pending }

/-- The run after a guard node was evaluated. -/
def record (run : SourceRun) (node : Nat) (evaluation : Option BarrierEvaluation) : SourceRun :=
  match evaluation with
  | some evaluation =>
      { run with evaluations := run.evaluations.setIfInBounds node (some evaluation) }
  | none => run

/-- Whether a value climbs from one to the other. -/
def climbs (graph : FlowGraph) (old new : TaintValue) : Bool :=
  old.leq new && decide (old.badness graph.atomCount < new.badness graph.atomCount)

/-- Looks at a node, the work for which is counted in `effort`. -/
def visit (graph : FlowGraph) (registry : BarrierRegistry) (run : SourceRun) (effort : Effort)
    (number : Nat) (node : FlowNode) : Except Interruption (SourceRun × Effort) :=
  let output := graph.transfer registry run.seed run.values number node
  let effort := { effort with
    visits := effort.visits + 1
    guardEvaluations := effort.guardEvaluations + output.evaluation.toList.length }
  let run := run.record number output.evaluation
  let old := run.values.at number
  if output.value = old then .ok (run, effort)
  else if climbs graph old output.value then
    .ok (run.update graph number output.value, { effort with updates := effort.updates + 1 })
  else .error ⟨.nonMonotone number, effort⟩

/-- Visits the nodes of the list until it is empty, at most so many times and before the deadline; a
visit too many or too late is counted too. -/
def settleBefore (deadline : Deadline) (graph : FlowGraph) (registry : BarrierRegistry) :
    Nat → SourceRun → Effort → Except Interruption (SourceRun × Effort)
  | budget, run, effort =>
      match run.pending with
      | [] => .ok (run, effort)
      | number :: pending =>
          match budget, graph.nodes[number]? with
          | 0, _ =>
              .error ⟨.iterationLimit effort.visits, { effort with visits := effort.visits + 1 }⟩
          | budget + 1, none =>
              settleBefore deadline graph registry budget { run with pending } effort
          | budget + 1, some node =>
              match deadline.passed? (effort.visits + 1) with
              | some milliseconds =>
                  .error ⟨.timeout milliseconds, { effort with visits := effort.visits + 1 }⟩
              | none => do
                  let (run, effort) ← visit graph registry { run with pending } effort number node
                  settleBefore deadline graph registry budget run effort

end SourceRun

namespace FlowGraph

/-- Propagates taint from each source in turn, before the deadline. -/
def runFromBefore (deadline : Deadline) (graph : FlowGraph) (registry : BarrierRegistry)
    (maxVisits : Nat) : List Nat → Effort → Except Interruption (List SourceRun × Effort)
  | [], effort => .ok ([], effort)
  | source :: rest, effort => do
      let (run, effort) ← SourceRun.settleBefore deadline graph registry (maxVisits - effort.visits)
        (.start graph source) effort
      let (runs, effort) ← runFromBefore deadline graph registry maxVisits rest effort
      return (run :: runs, effort)

end FlowGraph

end ForwardTaint
