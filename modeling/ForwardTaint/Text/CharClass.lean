/-!
Classes of characters, given by ranges of their code points.
-/

namespace ForwardTaint.Text

/-- A set of characters as ranges of code points, both ends included. -/
structure CharClass where
  ranges : List (Nat × Nat)

namespace CharClass

/-- Whether a character is in the class. -/
def contains (charClass : CharClass) (char : Char) : Bool :=
  charClass.ranges.any fun range => range.1 ≤ char.toNat && char.toNat ≤ range.2

/-- The characters of either class. -/
def union (first second : CharClass) : CharClass := ⟨first.ranges ++ second.ranges⟩

end CharClass

end ForwardTaint.Text
