/-!
Places in YAML text and the characters that matter for its layout.
-/

namespace ForwardTaint.Yaml

def isBreak (char : Char) : Bool :=
  char == '\n' || char == '\r' || char == '\x85' || char == '\u2028' || char == '\u2029'

def isBlank (char : Char) : Bool := char == ' ' || char == '\t'

/-- Whether a character may stand in the name of an anchor or a tag. -/
def isNameChar (char : Char) : Bool := char.isAlphanum || char == '_' || char == '-'

/-- Whether a character may stand in a document; others are only written as escapes. -/
def isAllowed (char : Char) : Bool :=
  let code := char.toNat
  code == 0x09 || code == 0x0A || code == 0x0D || code == 0x85
    || (0x20 ≤ code && code ≤ 0x7E) || (0xA0 ≤ code && code ≤ 0xFFFD && code != 0xFEFF)
    || 0x10000 ≤ code

/-- Whether a word ends in front of the characters. -/
def endsWord : List Char → Bool
  | [] => true
  | char :: _ => isBlank char || isBreak char

/-- Whether the characters begin with a mark between documents. -/
def isDocumentMark : List Char → Bool
  | '-' :: '-' :: '-' :: rest | '.' :: '.' :: '.' :: rest => endsWord rest
  | _ => false

/-- The characters with each of the usual line ends written as one character. -/
def withUniformBreaks : List Char → List Char
  | [] => []
  | '\r' :: '\n' :: rest => '\n' :: withUniformBreaks rest
  | char :: rest =>
      (if char = '\r' ∨ char = '\x85' then '\n' else char) :: withUniformBreaks rest

/-- A place in a text: its line and column, counted from zero, and the characters behind it. -/
structure Cursor where
  line : Nat
  column : Nat
  rest : List Char

namespace Cursor

/-- The place behind some characters of the same line. -/
def skip (cursor : Cursor) (count : Nat) : Cursor :=
  { cursor with column := cursor.column + count, rest := cursor.rest.drop count }

/-- The place behind the characters of the line that pass a test. -/
def skipWhile (cursor : Cursor) (test : Char → Bool) : Cursor :=
  let passed := cursor.rest.takeWhile fun char => test char && !isBreak char
  cursor.skip passed.length

/-- The place behind blanks and a comment. -/
def skipComment (cursor : Cursor) : Cursor :=
  let cursor := cursor.skipWhile isBlank
  if cursor.rest.head? = some '#' then cursor.skipWhile fun _ => true else cursor

/-- The beginning of the next line, for a place at the end of one. -/
def nextLine? (cursor : Cursor) : Option Cursor :=
  match cursor.rest with
  | [] => some cursor
  | char :: rest => if isBreak char then some ⟨cursor.line + 1, 0, rest⟩ else none

end Cursor

end ForwardTaint.Yaml
