import ForwardTaint.Taint.Check
import ForwardTaint.Taint.State

/-!
The values that flow through a graph, as a lattice: a value is lower when it is less tainted,
better processed and has passed more checks.  The clean value is the bottom.
-/

namespace ForwardTaint

/-- What is known of a value at one place. -/
structure TaintValue where
  state : TaintState
  processing : Processing
  checks : CheckSet
  deriving DecidableEq

namespace TaintValue

/-- The value that cannot be controlled from outside. -/
def clean : TaintValue := ⟨.clean, .fresh, .empty⟩

/-- Fresh input from outside. -/
def tainted : TaintValue := ⟨.tainted, .fresh, .empty⟩

/-- A fresh value of which nothing is known. -/
def unknown : TaintValue := ⟨.unknown, .fresh, .empty⟩

instance : Inhabited TaintValue := ⟨clean⟩

def isClean (value : TaintValue) : Bool := value.state == .clean

def isTainted (value : TaintValue) : Bool := value.state == .tainted

/-- Whether the value is known to begin with an allowed prefix. -/
def hasAllowPrefix (value : TaintValue) : Bool :=
  value.checks.checks.any fun
    | .allowPrefix _ => true
    | _ => false

/-- Whether the value is known not to begin with a denied prefix. -/
def hasDenyPrefix (value : TaintValue) : Bool :=
  value.checks.checks.any fun
    | .denyPrefix _ => true
    | _ => false

/-- The least value above both. -/
def join (first second : TaintValue) : TaintValue :=
  if first.isClean then second
  else if second.isClean then first
  else ⟨first.state.join second.state, first.processing.join second.processing,
    first.checks.inter second.checks⟩

/-- Whether the first value is below or equal to the second. -/
def leq (first second : TaintValue) : Bool :=
  if first.isClean then true
  else if second.isClean then false
  else decide (first.state.height ≤ second.state.height)
    && first.processing.atLeast second.processing && second.checks.subset first.checks

/-- The number of steps above the clean value, as a word of 32 bits, when a value can hold at most
`capacity` checks. -/
def badness (value : TaintValue) (capacity : Nat) : Nat :=
  if value.isClean then 0
  else (value.state.height + value.processing.badness
    + (capacity - value.checks.size) % UInt32.size) % UInt32.size

/-- The greatest number of steps above the clean value. -/
def maxBadness (capacity : Nat) : Nat :=
  badness ⟨.tainted, .worst, .empty⟩ capacity

/-- The value, a clean one without any history. -/
def canonicalForm (value : TaintValue) : TaintValue := if value.isClean then clean else value

/-- The value in words: its state, and unless it is clean its decoding and its checks. -/
def text (value : TaintValue) : String :=
  if value.isClean then value.state.text
  else
    let checks := if value.checks.checks.isEmpty then ""
      else " checks=[" ++ String.intercalate ", " (value.checks.checks.map Check.text) ++ "]"
    value.state.text ++ " decode=" ++ value.processing.decode.text ++ checks

end TaintValue

end ForwardTaint
