import ForwardTaint.Text.CharClass
import ForwardTaint.Text.CaseOrbit

/-!
Patterns over text: sequences, choices and repetitions of sets of characters, and assertions
about the place between two characters.
-/

namespace ForwardTaint

/-- A set of characters; `folded` holds every character of which some case form is in the set. -/
inductive CharSet where
  | range (low high : Nat)
  | charClass (charClass : Text.CharClass)
  | complement (set : CharSet)
  | union (first second : CharSet)
  | inter (first second : CharSet)
  | folded (set : CharSet)

namespace CharSet

/-- The set without members. -/
def empty : CharSet := .range 1 0

/-- The set of one character. -/
def single (char : Char) : CharSet := .range char.toNat char.toNat

def contains : CharSet → Char → Bool
  | .range low high, char => low ≤ char.toNat && char.toNat ≤ high
  | .charClass members, char => members.contains char
  | .complement set, char => !set.contains char
  | .union first second, char => first.contains char || second.contains char
  | .inter first second, char => first.contains char && second.contains char
  | .folded set, char => (Text.caseOrbit char).any set.contains

end CharSet

/-- What can be asked of the place between two characters. -/
inductive Assertion where
  | textStart
  | textEnd
  | lineStart
  | lineEnd
  | wordBoundary
  | wordInside
  | wordStart
  | wordEnd
  | wordStartHalf
  | wordEndHalf
  deriving DecidableEq

/-- A pattern; a repetition has a least and perhaps a greatest number of rounds. -/
inductive Pattern where
  | empty
  | oneOf (set : CharSet)
  | assertion (assertion : Assertion)
  | sequence (first second : Pattern)
  | choice (first second : Pattern)
  | repeated (least : Nat) (greatest : Option Nat) (inner : Pattern)

end ForwardTaint
