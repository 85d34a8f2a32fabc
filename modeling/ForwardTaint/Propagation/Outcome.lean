import ForwardTaint.Propagation.Path
import ForwardTaint.Propagation.Run

/-!
The findings of a procedure.  Where propagation comes to an end, a sink is flagged for a source
when tainted values arrive at its checked arguments; where it is given up, every sink that a source
can reach is flagged.
-/

namespace ForwardTaint

/-- What bounds the work on a procedure and the length of paths, and whether flows that barriers
stop are reported. -/
structure PropagationLimits where
  maxVisits : Nat
  maxPathLength : Nat
  explainSuppressed : Bool

/-- Whether propagation came to an end. -/
inductive PropagationStatus where
  | complete
  | unstable (reason : UnstableReason)
  deriving DecidableEq

/-- The findings of a procedure, with the work that they took. -/
structure PropagationOutcome where
  findings : List Finding
  status : PropagationStatus
  sourceCount : Nat
  effort : Effort

namespace PropagationOutcome

def isUnstable (outcome : PropagationOutcome) : Bool := outcome.status != .complete

end PropagationOutcome

namespace SourceRun

/-- The effective guard at a node as an applied barrier. -/
def barrierAt? (graph : FlowGraph) (run : SourceRun) (number : Nat) : Option AppliedBarrier := do
  let node ← graph.nodes[number]?
  let evaluation ← run.evaluation? number
  if !evaluation.verdict.isEffective then none
  else match node.kind with
    | .guard guard outcome => do
        let condition ← graph.guards[guard]?
        return ⟨guard, outcome, condition.text, condition.span, node.variableName.getD "",
          evaluation⟩
    | _ => none

/-- Adds a barrier at the end unless one for the same outcome of the guard and the same variable is
there. -/
def addBarrier (barriers : List AppliedBarrier) (barrier : AppliedBarrier) :
    List AppliedBarrier :=
  if barriers.any fun known => known.guard == barrier.guard && known.outcome == barrier.outcome
    && known.variableName == barrier.variableName then barriers
  else barriers ++ [barrier]

/-- The effective guards between the source and some nodes. -/
def barriers (graph : FlowGraph) (run : SourceRun) (reachable : Array Bool) (goals : List Nat) :
    List AppliedBarrier :=
  let reaching := graph.reaching goals
  let between := (List.range graph.nodes.size).filter fun node =>
    reachable.getD node false && reaching.getD node false
  (between.filterMap (run.barrierAt? graph)).foldl addBarrier []

end SourceRun

namespace FlowGraph

/-- A finding with the shortest way through admitted nodes. -/
def finding (graph : FlowGraph) (limits : PropagationLimits) (source sink : Nat)
    (admits : Nat → Bool) (verdict : Verdict) (barriers : List AppliedBarrier) (unstable : Bool) :
    Finding where
  procedureName := graph.procedureName
  source := graph.pathStep source
  sink := graph.pathStep sink
  path := (shortened limits.maxPathLength (graph.shortestPath admits source sink)).map
    graph.pathStep
  verdict := verdict
  barriers := barriers
  unstable := unstable

/-- The sinks one of whose checked arguments is marked. -/
def sinksWithin (graph : FlowGraph) (reachable : Array Bool) : List Nat :=
  graph.sinks.filter fun sink =>
    (graph.sinkArguments sink).any fun argument => reachable.getD argument false

/-- The finding for a sink that the source of a run can reach, if there is one. -/
def sinkFinding? (graph : FlowGraph) (limits : PropagationLimits) (run : SourceRun)
    (reachable : Array Bool) (sink : Nat) : Option Finding :=
  let arguments := graph.sinkArguments sink
  if (run.values.joined arguments).isTainted then
    some (graph.finding limits run.seed sink (fun node => node == sink || !run.isCleanAt node)
      .flagged [] false)
  else if limits.explainSuppressed then
    some (graph.finding limits run.seed sink (fun node => reachable.getD node false)
      .suppressedByBarrier (run.barriers graph reachable arguments) false)
  else none

/-- The findings for the source of a run. -/
def findingsOf (graph : FlowGraph) (limits : PropagationLimits) (run : SourceRun) :
    List Finding :=
  let reachable := graph.reachableFrom run.seed
  (graph.sinksWithin reachable).filterMap (graph.sinkFinding? limits run reachable)

/-- The findings for a source when nothing is known but which nodes it can reach. -/
def reachabilityFindings (graph : FlowGraph) (limits : PropagationLimits) (source : Nat) :
    List Finding :=
  let reachable := graph.reachableFrom source
  (graph.sinksWithin reachable).map fun sink =>
    graph.finding limits source sink (fun node => reachable.getD node false) .flagged [] true

/-- Propagates taint through a graph, before the deadline. -/
def propagateBefore (deadline : Deadline) (graph : FlowGraph) (registry : BarrierRegistry)
    (limits : PropagationLimits) : PropagationOutcome :=
  let sources := graph.sources
  match graph.runFromBefore deadline registry limits.maxVisits sources .none with
  | .ok (runs, effort) =>
      ⟨Finding.sorted (runs.flatMap (graph.findingsOf limits)), .complete, sources.length, effort⟩
  | .error interruption =>
      ⟨Finding.sorted (sources.flatMap (graph.reachabilityFindings limits)),
        .unstable interruption.reason, sources.length, interruption.effort⟩

/-- Propagates taint through a graph, however long that takes. -/
def propagate (graph : FlowGraph) (registry : BarrierRegistry) (limits : PropagationLimits) :
    PropagationOutcome :=
  graph.propagateBefore .unbounded registry limits

end FlowGraph

end ForwardTaint
