import ForwardTaint.Text.DotSegments
import ForwardTaint.Text.Lowercase
import ForwardTaint.Text.Percent

/-!
Canonical forms of the texts that guards compare with.  A text that differs from its canonical
form can never begin a fully decoded value.
-/

namespace ForwardTaint

/-- A text in canonical form, and whether it was written otherwise. -/
structure CanonicalLiteral where
  value : String
  changed : Bool
  deriving DecidableEq

namespace CanonicalLiteral

/-- The canonical form: fully decoded, then with `.` and `..` resolved. -/
def ofText (literal : String) : CanonicalLiteral :=
  let value := String.ofList
    (Text.removeDotSegments (Text.percentDecodeFully literal.toList))
  ⟨value, value != literal⟩

/-- The prefix that a check for an allowed beginning asks for, and whether it can ever match. -/
def allowKey (literal : String) : String × Bool :=
  let canonical := ofText literal
  (canonical.value, !canonical.changed)

/-- The prefix, in small letters, that a check against a denied beginning asks for, and whether it
can ever match. -/
def denyKey (literal : String) : String × Bool :=
  let canonical := ofText literal
  (Text.lowercase canonical.value, !canonical.changed)

end CanonicalLiteral

end ForwardTaint
