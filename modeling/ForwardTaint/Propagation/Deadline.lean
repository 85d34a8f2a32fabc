/-!
The clock that propagation is carried out against.  The time that a procedure takes is compared with
its budget every few visits; what the clock shows then depends on the machine, so it can be anything
here.
-/

namespace ForwardTaint

/-- The time that propagation may take, if it is bounded, and what the clock shows after so many visits
when it is compared with the budget, and when it is read again for the report, all in nanoseconds. -/
structure Deadline where
  budget : Option Nat
  compared : Nat → Nat
  reported : Nat → Nat

namespace Deadline

/-- All the time that propagation takes. -/
def unbounded : Deadline := ⟨none, fun _ => 0, fun _ => 0⟩

/-- Every how many visits the clock is read. -/
def sampling : Nat := 64

/-- The milliseconds to be reported if the budget is found to be exceeded after so many visits. -/
def passed? (deadline : Deadline) (visits : Nat) : Option Nat := do
  let budget ← deadline.budget
  if visits % sampling = 0 ∧ budget < deadline.compared visits then
    some (deadline.reported visits / 1000000 % UInt64.size)
  else none

end Deadline

end ForwardTaint
