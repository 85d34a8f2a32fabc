import ForwardTaint.Json.Parser
import ForwardTaint.Yaml.Cursor

/-!
Reading scalars.  In quoted and plain scalars the blanks around a line break do not count, a single
break stands for a space, and of several breaks the first one is dropped.  In block scalars the
indentation does not count, and folding joins lines that do not begin with a blank.
-/

namespace ForwardTaint.Yaml

/-- The blanks or line breaks between two words of a scalar, last first; an escaped line break
stands for nothing. -/
structure Gap where
  blanks : List Char
  breaks : List Char
  escaped : Bool

namespace Gap

def empty : Gap := ⟨[], [], false⟩

def isEmpty (gap : Gap) : Bool := gap.blanks.isEmpty && gap.breaks.isEmpty && !gap.escaped

/-- Whether the gap holds a line break. -/
def spansLines (gap : Gap) : Bool := !gap.breaks.isEmpty || gap.escaped

/-- The gap with one more character. -/
def add (gap : Gap) (char : Char) : Gap :=
  if isBreak char then { gap with blanks := [], breaks := char :: gap.breaks }
  else if gap.spansLines then gap
  else { gap with blanks := char :: gap.blanks }

/-- What the gap means, last character first. -/
def meaning (gap : Gap) : List Char :=
  if gap.escaped then gap.breaks
  else match gap.breaks.reverse with
    | [] => gap.blanks
    | ['\n'] => [' ']
    | '\n' :: further => further.reverse
    | breaks => breaks.reverse

end Gap

/-- A scalar under way: the characters before the last gap, last first, and the place. -/
structure ScalarText where
  done : List Char
  gap : Gap
  line : Nat
  column : Nat

namespace ScalarText

/-- The scalar that begins at a place. -/
def start (cursor : Cursor) : ScalarText := ⟨[], .empty, cursor.line, cursor.column⟩

/-- Takes a blank or a line break. -/
def space (text : ScalarText) (char : Char) : ScalarText :=
  { text with
    gap := text.gap.add char
    line := if isBreak char then text.line + 1 else text.line
    column := if isBreak char then 0 else text.column + 1 }

/-- Closes the gap. -/
def close (text : ScalarText) : ScalarText :=
  { text with done := text.gap.meaning ++ text.done, gap := .empty }

/-- Moves on by one character that adds the given ones. -/
def add (text : ScalarText) (chars : List Char) : ScalarText :=
  { text with done := chars ++ text.done, column := text.column + 1 }

/-- The characters up to the last gap. -/
def result (text : ScalarText) : String := String.ofList text.done.reverse

/-- The place of the scalar in front of the remaining characters. -/
def cursor (text : ScalarText) (rest : List Char) : Cursor := ⟨text.line, text.column, rest⟩

end ScalarText

/-- What is being read of a quoted scalar: a quote that may end it, or an escape with the digits
that it lacks. -/
inductive QuotedMode where
  | reading
  | closing
  | escape
  | digits (left value : Nat)

/-- What a character behind a backslash stands for. -/
def escapedChar? : Char → Option Char
  | '0' => some '\x00'
  | 'a' => some '\x07'
  | 'b' => some '\x08'
  | 't' | '\t' => some '\t'
  | 'n' => some '\n'
  | 'v' => some '\x0b'
  | 'f' => some '\x0c'
  | 'r' => some '\r'
  | 'e' => some '\x1b'
  | ' ' => some ' '
  | '"' => some '"'
  | '/' => some '/'
  | '\\' => some '\\'
  | 'N' => some '\x85'
  | '_' => some '\xa0'
  | 'L' => some '\u2028'
  | 'P' => some '\u2029'
  | _ => none

/-- The number of digits of a numeric escape. -/
def escapeDigits? : Char → Option Nat
  | 'x' => some 2
  | 'u' => some 4
  | 'U' => some 8
  | _ => none

/-- Reads a quoted scalar behind its first quote. -/
def readQuoted (double : Bool) :
    QuotedMode → ScalarText → List Char → Option (String × Cursor)
  | .closing, text, [] => some (text.result, text.cursor [])
  | _, _, [] => none
  | .closing, text, char :: rest =>
      if char = '\'' then readQuoted double .reading (text.add ['\'']) rest
      else some (text.result, text.cursor (char :: rest))
  | .escape, text, char :: rest =>
      if isBreak char then
        readQuoted double .reading
          { text with gap := ⟨[], [], true⟩, line := text.line + 1, column := 0 } rest
      else match escapedChar? char, escapeDigits? char with
        | some meaning, _ => readQuoted double .reading (text.add [meaning]) rest
        | none, some count => readQuoted double (.digits count 0) (text.add []) rest
        | none, none => none
  | .digits left value, text, char :: rest =>
      match Json.hexValue? char with
      | none => none
      | some digit =>
          let value := 16 * value + digit
          if 1 < left then readQuoted double (.digits (left - 1) value) (text.add []) rest
          else if value.isValidChar then
            readQuoted double .reading (text.add [Char.ofNat value]) rest
          else none
  | .reading, text, char :: rest =>
      if isBlank char || isBreak char then readQuoted double .reading (text.space char) rest
      else if text.column = 0 && isDocumentMark (char :: rest) then none
      else
        let text := text.close
        if double && char = '"' then some (text.result, (text.add []).cursor rest)
        else if double && char = '\\' then readQuoted double .escape (text.add []) rest
        else if !double && char = '\'' then readQuoted double .closing (text.add []) rest
        else readQuoted double .reading (text.add [char]) rest

/-- Whether a plain scalar ends in front of the characters. -/
def endsPlain (inFlow : Bool) (char : Char) (rest : List Char) : Bool :=
  (char == ':' && endsWord rest)
    || (inFlow && (char == ',' || char == '[' || char == ']' || char == '\x7b' || char == '\x7d'))

/-- Reads a plain scalar, the further lines of which are indented by at least `indent` columns
outside flow collections; answers also whether line breaks follow it. -/
def readPlain (inFlow : Bool) (indent : Nat) :
    ScalarText → List Char → Option (String × Bool × Cursor)
  | text, [] => some (text.result, text.gap.spansLines, text.cursor [])
  | text, char :: rest =>
      let ended := some (text.result, text.gap.spansLines, text.cursor (char :: rest))
      let outside := text.column < indent
      if isBlank char || isBreak char then
        if char = '\t' && text.gap.spansLines && outside then none
        else readPlain inFlow indent (text.space char) rest
      else if !text.gap.isEmpty && ((!inFlow && outside) || char = '#') then ended
      else if text.column = 0 && isDocumentMark (char :: rest) then ended
      else if inFlow && char = ':' && rest.head?.any (",?[]\x7b\x7d".toList.contains ·) then none
      else if endsPlain inFlow char rest then ended
      else readPlain inFlow indent (text.close.add [char]) rest

/-- What becomes of the line breaks at the end of a block scalar: all but one are dropped, or all
are, or none. -/
inductive Chomping where
  | clip
  | strip
  | keep

/-- A block scalar under way.  `indent` is known from the first line with text on; `widest` is the
indentation of the lines before that; `lineBreak` ends the last line with text, and `emptyLines`
are the breaks behind it, last first. -/
structure BlockText where
  indent : Option Nat
  widest : Nat
  done : List Char
  lineBreak : List Char
  emptyLines : List Char
  blankLine : Bool
  inLine : Bool
  line : Nat
  column : Nat

namespace BlockText

/-- Joins the next line with text to those before. -/
def join (folded : Bool) (text : BlockText) (blank : Bool) : BlockText :=
  let joined :=
    if folded && text.lineBreak == ['\n'] && !text.blankLine && !blank then
      if text.emptyLines.isEmpty then [' '] else text.emptyLines
    else text.emptyLines ++ text.lineBreak
  { text with
    done := joined ++ text.done
    lineBreak := []
    emptyLines := []
    blankLine := blank
    inLine := true }

/-- The text with the line breaks at its end. -/
def result (chomping : Chomping) (text : BlockText) : String :=
  let tail := match chomping with
    | .strip => []
    | .clip => text.lineBreak
    | .keep => text.emptyLines ++ text.lineBreak
  String.ofList (tail ++ text.done).reverse

end BlockText

/-- Reads the lines of a block scalar, which is indented by at least `least` columns. -/
def readBlock (folded : Bool) (least : Nat) (chomping : Chomping) :
    BlockText → List Char → Option (String × Cursor)
  | text, [] => some (text.result chomping, ⟨text.line, text.column, []⟩)
  | text, char :: rest =>
      if text.inLine then
        if isBreak char then
          readBlock folded least chomping
            { text with lineBreak := [char], inLine := false, line := text.line + 1, column := 0 }
            rest
        else
          readBlock folded least chomping
            { text with done := char :: text.done, column := text.column + 1 } rest
      else
        let inMargin := text.indent.all (text.column < ·)
        if char = ' ' && inMargin then
          readBlock folded least chomping
            { text with widest := max text.widest (text.column + 1), column := text.column + 1 }
            rest
        else if char = '\t' && inMargin then none
        else if isBreak char then
          readBlock folded least chomping
            { text with
              emptyLines := char :: text.emptyLines, line := text.line + 1, column := 0 } rest
        else
          let indent := text.indent.getD (max text.widest least)
          let text := { text with indent := some indent }
          if text.column = indent then
            let text := text.join folded (isBlank char)
            readBlock folded least chomping
              { text with done := char :: text.done, column := text.column + 1 } rest
          else some (text.result chomping, ⟨text.line, text.column, char :: rest⟩)

/-- Reads a mark for the line breaks at the end. -/
def readChomping : List Char → Chomping × List Char
  | '-' :: rest => (.strip, rest)
  | '+' :: rest => (.keep, rest)
  | rest => (.clip, rest)

/-- Reads a digit that gives the indentation. -/
def readIndentation? : List Char → Option (Option Nat × List Char)
  | char :: rest =>
      if char = '0' then none
      else if char.isDigit then some (some (char.toNat - '0'.toNat), rest)
      else some (none, char :: rest)
  | [] => some (none, [])

/-- Reads the marks of a block scalar, which may stand in either order. -/
def readBlockMarks? (rest : List Char) : Option (Chomping × Option Nat × List Char) :=
  match readChomping rest with
  | (.clip, rest) =>
      (readIndentation? rest).map fun (indentation, rest) =>
        let (chomping, rest) := if indentation.isSome then readChomping rest else (.clip, rest)
        (chomping, indentation, rest)
  | (chomping, rest) =>
      (readIndentation? rest).map fun (indentation, rest) => (chomping, indentation, rest)

/-- Reads a block scalar behind its first character, inside a block at the column `parent` if there
is one. -/
def readBlockScalar (folded : Bool) (parent : Option Nat) (cursor : Cursor) :
    Option (String × Cursor) := do
  let (chomping, indentation, rest) ← readBlockMarks? cursor.rest
  let cursor := cursor.skip (cursor.rest.length - rest.length)
  let cursor ← cursor.skipComment.nextLine?
  let indent := indentation.map fun columns => parent.getD 0 + columns
  let least := max (parent.elim 0 (· + 1)) 1
  readBlock folded least chomping ⟨indent, 0, [], [], [], false, false, cursor.line, cursor.column⟩
    cursor.rest

end ForwardTaint.Yaml
