/-!
Places in the analyzed text.
-/

namespace ForwardTaint

/-- A stretch of text from its first to its last line and column. -/
structure Span where
  startLine : UInt32
  startColumn : UInt32
  endLine : UInt32
  endColumn : UInt32
  deriving DecidableEq

namespace Span

/-- The span of something that has no place. -/
def zero : Span := ⟨0, 0, 0, 0⟩

instance : Inhabited Span := ⟨zero⟩

/-- The span of one line, from its beginning. -/
def line (number : UInt32) : Span := ⟨number, 0, number, 0⟩

/-- Whether this is the span of something that has no place. -/
def isZero (span : Span) : Bool := span == zero

/-- The numbers of a span, in the order in which spans are compared. -/
def numbers (span : Span) : List Nat :=
  [span.startLine.toNat, span.startColumn.toNat, span.endLine.toNat, span.endColumn.toNat]

/-- The place where the span begins. -/
def text (span : Span) : String :=
  toString span.startLine.toNat ++ ":" ++ toString span.startColumn.toNat

end Span

end ForwardTaint
