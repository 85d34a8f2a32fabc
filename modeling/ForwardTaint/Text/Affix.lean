/-!
Beginnings, endings and parts of texts, by their characters.
-/

namespace ForwardTaint.Text

/-- Whether the text begins with `start`. -/
def beginsWith (start text : String) : Bool := start.toList.isPrefixOf text.toList

/-- Whether the text ends with `ending`. -/
def endsWith (ending text : String) : Bool := ending.toList.isSuffixOf text.toList

/-- Whether `part` occurs in the characters. -/
def occursIn (part : List Char) : List Char → Bool
  | [] => part.isEmpty
  | char :: rest => part.isPrefixOf (char :: rest) || occursIn part rest

/-- Whether `part` occurs in the text. -/
def contains (part text : String) : Bool := occursIn part.toList text.toList

/-- The characters between separators, at least one segment. -/
def segmentsOf (separator : Char) : List Char → List (List Char)
  | [] => [[]]
  | char :: rest =>
      if char = separator then [] :: segmentsOf separator rest
      else match segmentsOf separator rest with
        | [] => [[char]]
        | segment :: segments => (char :: segment) :: segments

/-- What stands before and behind the last separator. -/
def splitAtLast? (separator : Char) : List Char → Option (List Char × List Char)
  | [] => none
  | char :: rest =>
      match splitAtLast? separator rest with
      | some (before, behind) => some (char :: before, behind)
      | none => if char = separator then some ([], rest) else none

/-- The part of a dotted name behind its last dot. -/
def lastSegment (text : String) : String :=
  String.ofList (((segmentsOf '.' text.toList).getLast?).getD [])

end ForwardTaint.Text
