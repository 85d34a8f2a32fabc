import ForwardTaint.Barrier.Evaluation
import ForwardTaint.Program.Span

/-!
Findings: pairs of a source and a sink with the way between them.
-/

namespace ForwardTaint

/-- Whether a flow is reported or stopped by a barrier. -/
inductive Verdict where
  | flagged
  | suppressedByBarrier
  deriving DecidableEq

def Verdict.text : Verdict → String
  | .flagged => "FLAGGED"
  | .suppressedByBarrier => "SUPPRESSED_BY_BARRIER"

/-- A guard that stops a flow. -/
structure AppliedBarrier where
  guard : Nat
  outcome : Bool
  guardText : String
  span : Span
  variableName : String
  evaluation : BarrierEvaluation
  deriving DecidableEq

/-- One node on the way from a source to a sink. -/
structure PathStep where
  node : Nat
  kind : String
  text : String
  span : Span
  deriving DecidableEq

/-- Why the propagation through a procedure was given up. -/
inductive UnstableReason where
  | iterationLimit (visits : Nat)
  | timeout (milliseconds : Nat)
  | nonMonotone (node : Nat)
  deriving DecidableEq

def UnstableReason.text : UnstableReason → String
  | .iterationLimit visits => "iteration ceiling hit after " ++ toString visits ++ " node visits"
  | .timeout milliseconds => "time budget exceeded after " ++ toString milliseconds ++ "ms"
  | .nonMonotone node => "potential did not decrease at node " ++ toString node

/-- A flow from a source to a sink; `unstable` marks one that was reported because propagation
was given up. -/
structure Finding where
  procedureName : String
  source : PathStep
  sink : PathStep
  path : List PathStep
  verdict : Verdict
  barriers : List AppliedBarrier
  unstable : Bool
  deriving DecidableEq

namespace Finding

def isFlagged (finding : Finding) : Bool := finding.verdict == .flagged

/-- What findings are ordered by: the place and node of the sink, then those of the source. -/
def sortKey (finding : Finding) : List Nat :=
  finding.sink.span.numbers ++ [finding.sink.node]
    ++ finding.source.span.numbers ++ [finding.source.node]

/-- Whether the first list of numbers stands before the second one or equals it: the first numbers
that differ decide, and a list stands before those that it begins. -/
def isOrdered : List Nat → List Nat → Bool
  | [], _ => true
  | _ :: _, [] => false
  | first :: firsts, second :: seconds =>
      first < second || (first == second && isOrdered firsts seconds)

/-- The findings in order; those of one key keep their order. -/
def sorted (findings : List Finding) : List Finding :=
  findings.mergeSort fun first second => isOrdered first.sortKey second.sortKey

end Finding

end ForwardTaint
