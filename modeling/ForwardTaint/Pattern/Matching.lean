import ForwardTaint.Ascending
import ForwardTaint.Pattern.Syntax
import ForwardTaint.Text.WordClasses

/-!
Matching of patterns.  A pattern carries a set of places in the text to the set of places where a
match that begins at one of the former can end; a text matches when some place is reached from
some place.
-/

namespace ForwardTaint.Pattern

/-- Whether the character at a place is a word character. -/
def isWordAt (text : Array Char) (place : Nat) : Bool :=
  (text[place]?).any Text.wordCharacters.contains

/-- Whether the character before a place is a word character. -/
def isWordBefore (text : Array Char) (place : Nat) : Bool :=
  0 < place && isWordAt text (place - 1)

end ForwardTaint.Pattern

namespace ForwardTaint.Assertion

open Pattern

/-- Whether the assertion holds at a place. -/
def holds (assertion : Assertion) (text : Array Char) (place : Nat) : Bool :=
  let before := isWordBefore text place
  let after := isWordAt text place
  match assertion with
  | .textStart => place == 0
  | .textEnd => place == text.size
  | .lineStart => place == 0 || text[place - 1]? == some '\n'
  | .lineEnd => place == text.size || text[place]? == some '\n'
  | .wordBoundary => before != after
  | .wordInside => before == after
  | .wordStart => !before && after
  | .wordEnd => before && !after
  | .wordStartHalf => !before
  | .wordEndHalf => !after

end ForwardTaint.Assertion

namespace ForwardTaint.Pattern

/-- Applies `next` a number of times, or until it changes nothing. -/
def iterate (next : List Nat → List Nat) : Nat → List Nat → List Nat
  | 0, places => places
  | rounds + 1, places =>
      let reached := next places
      if reached = places then places else iterate next rounds reached

/-- The places where a match that begins at one of the places can end. -/
def ends (text : Array Char) : Pattern → List Nat → List Nat
  | .empty, places => places
  | .oneOf set, places =>
      (places.filter fun place => (text[place]?).any set.contains).map (· + 1)
  | .assertion asked, places => places.filter (asked.holds text)
  | .sequence first second, places => ends text second (ends text first places)
  | .choice first second, places =>
      Ascending.union (ends text first places) (ends text second places)
  | .repeated least greatest inner, places =>
      let further (places : List Nat) : List Nat := Ascending.union places (ends text inner places)
      let rounds := match greatest with
        | some greatest => greatest - least
        | none => text.size + 1
      iterate further rounds (iterate (ends text inner) least places)

/-- Whether the pattern matches somewhere in the text. -/
def occursIn (pattern : Pattern) (text : String) : Bool :=
  let chars := text.toList.toArray
  !(ends chars pattern (List.range (chars.size + 1))).isEmpty

end ForwardTaint.Pattern
