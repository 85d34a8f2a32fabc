/-!
What is known of a value: how far it can be controlled from outside, and which operations it went
through before a check.
-/

namespace ForwardTaint

/-- How far a value is controlled from outside, from not at all to fully. -/
inductive TaintState where
  | clean
  | unknown
  | tainted
  deriving DecidableEq

namespace TaintState

/-- The number of states below this one. -/
def height : TaintState → Nat
  | .clean => 0
  | .unknown => 1
  | .tainted => 2

/-- The higher of two states. -/
def join (first second : TaintState) : TaintState :=
  if first.height ≤ second.height then second else first

def text : TaintState → String
  | .clean => "Clean"
  | .unknown => "Unknown"
  | .tainted => "Tainted"

end TaintState

/-- How far percent-decoding has gone: not at all, a fixed single time, or until no escape can
remain. -/
inductive DecodeLevel where
  | raw
  | once
  | canonical
  deriving DecidableEq

namespace DecodeLevel

/-- The number of steps left to the canonical level. -/
def distance : DecodeLevel → Nat
  | .raw => 2
  | .once => 1
  | .canonical => 0

/-- The level that is farther from canonical. -/
def worse (first second : DecodeLevel) : DecodeLevel :=
  if first.distance ≤ second.distance then second else first

def text : DecodeLevel → String
  | .raw => "Raw"
  | .once => "Once"
  | .canonical => "Canonical"

end DecodeLevel

/-- The operations that a value went through before it reaches a check. -/
structure Processing where
  decode : DecodeLevel
  normalizedBeforeDecode : Bool
  encodingSeen : Bool
  normalized : Bool
  caseFolded : Bool
  deriving DecidableEq

namespace Processing

/-- The processing of a value that comes straight from its source. -/
def fresh : Processing := ⟨.raw, false, false, false, false⟩

/-- The processing that both values are sure to have had, with the faults of either. -/
def join (first second : Processing) : Processing where
  decode := first.decode.worse second.decode
  normalizedBeforeDecode := first.normalizedBeforeDecode || second.normalizedBeforeDecode
  encodingSeen := first.encodingSeen || second.encodingSeen
  normalized := first.normalized && second.normalized
  caseFolded := first.caseFolded && second.caseFolded

/-- Whether the first value is at least as well processed as the second. -/
def atLeast (first second : Processing) : Bool :=
  decide (first.decode.distance ≤ second.decode.distance)
    && (!first.normalizedBeforeDecode || second.normalizedBeforeDecode)
    && (!first.encodingSeen || second.encodingSeen)
    && (first.normalized || !second.normalized)
    && (first.caseFolded || !second.caseFolded)

/-- The number of steps from the best processing. -/
def badness (processing : Processing) : Nat :=
  processing.decode.distance + processing.normalizedBeforeDecode.toNat
    + processing.encodingSeen.toNat + (!processing.normalized).toNat
    + (!processing.caseFolded).toNat

/-- The processing that is farthest from the best. -/
def worst : Processing := ⟨.raw, true, true, false, false⟩

end Processing

end ForwardTaint
