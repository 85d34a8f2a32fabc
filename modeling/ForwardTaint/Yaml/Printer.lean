import ForwardTaint.Yaml.Cursor
import ForwardTaint.Yaml.Meaning

/-!
Writing YAML in blocks.  A text stands without quotes where it then reads back as the same text;
otherwise it stands in single quotes, or in double quotes when it holds characters that are only
written as escapes, or as a block when it has several lines.
-/

namespace ForwardTaint.Yaml

/-- Words that other readers take for truth values. -/
def isTruthWord (word : String) : Bool :=
  ["y", "Y", "yes", "Yes", "YES", "n", "N", "no", "No", "NO",
    "on", "On", "ON", "off", "Off", "OFF"].contains word

/-- Whether a text would mean something else without quotes. -/
def hasOtherMeaning (text : String) : Bool :=
  text.isEmpty || isTruthWord text || isNullWord text || (booleanWord? text).isSome
    || isIntegerWord text || isDecimalWord text || hasLeadingZero text.toList

/-- Whether a character can be written outside double quotes. -/
def isPrintable (char : Char) : Bool :=
  let code := char.toNat
  code == 0x0A || (0x20 ≤ code && code ≤ 0x7E)
    || (0xA0 ≤ code && code ≤ 0xFFFD && code != 0xFEFF) || 0x10000 ≤ code

/-- Whether some character and the next one pass the tests. -/
def hasPair (first second : Char → Bool) : List Char → Bool
  | char :: next :: rest => (first char && second next) || hasPair first second (next :: rest)
  | _ => false

/-- Whether a colon ends a word or a sign of a comment begins one. -/
def hasInnerMark (inWord : Bool) : List Char → Bool
  | [] => false
  | char :: rest =>
      (char == ':' && endsWord rest) || (char == '#' && !inWord)
        || hasInnerMark (!(isBlank char || isBreak char)) rest

/-- Whether a text begins like something else than a plain scalar. -/
def hasLeadingMark : List Char → Bool
  | [] => false
  | char :: rest =>
      ",[]\x7b\x7d#&*!|>'\"%@\x60".toList.contains char
        || ((char == '?' || char == ':' || char == '-') && endsWord rest)
        || "---".toList.isPrefixOf (char :: rest) || "...".toList.isPrefixOf (char :: rest)

/-- Whether the text can stand without quotes. -/
def allowsPlain (chars : List Char) : Bool :=
  let isSpace (char : Char) := char == ' '
  !hasLeadingMark chars && !hasInnerMark false chars && chars.all isPrintable
    && !chars.any isBreak && !chars.head?.any isSpace && !chars.getLast?.any isSpace

/-- Whether the text can stand in single quotes. -/
def allowsSingleQuotes (chars : List Char) : Bool :=
  chars.all isPrintable && !hasPair isBreak (· == ' ') chars && !hasPair (· == ' ') isBreak chars

/-- Whether the text can stand as a block. -/
def allowsBlock (chars : List Char) : Bool :=
  chars.all isPrintable && !hasPair (· == ' ') isBreak chars && chars.getLast? != some ' '

/-- A text as a value, without quotes if it can stand so. -/
def ofString (text : String) : Yaml :=
  .scalar (if !hasOtherMeaning text && allowsPlain text.toList then .plain else .quoted) text

/-- A number as a value. -/
def ofNat (value : Nat) : Yaml := .scalar .plain (toString value)

/-- A truth value. -/
def ofBool (value : Bool) : Yaml := .scalar .plain (toString value)

/-- The hexadecimal digits of a number, at least so many. -/
def hexDigits (width value : Nat) : List Char :=
  let digits := (Nat.toDigits 16 value).map Char.toUpper
  List.replicate (width - digits.length) '0' ++ digits

/-- A character as an escape. -/
def escaped (char : Char) : List Char :=
  '\\' :: match char with
    | '\x00' => ['0']
    | '\x07' => ['a']
    | '\x08' => ['b']
    | '\t' => ['t']
    | '\n' => ['n']
    | '\x0b' => ['v']
    | '\x0c' => ['f']
    | '\r' => ['r']
    | '\x1b' => ['e']
    | '"' => ['"']
    | '\\' => ['\\']
    | '\x85' => ['N']
    | '\xa0' => ['_']
    | '\u2028' => ['L']
    | '\u2029' => ['P']
    | _ =>
        let code := char.toNat
        if code ≤ 0xFF then 'x' :: hexDigits 2 code
        else if code ≤ 0xFFFF then 'u' :: hexDigits 4 code
        else 'U' :: hexDigits 8 code

/-- A text in double quotes. -/
def doubleQuoted (chars : List Char) : List Char :=
  let isPlain (char : Char) := isPrintable char && !isBreak char && char != '"' && char != '\\'
  '"' :: chars.flatMap (fun char => if isPlain char then [char] else escaped char) ++ ['"']

/-- Lines with their breaks, those with text indented by so many columns. -/
def indentLines (indent : Nat) : (atStart : Bool) → List Char → List Char
  | _, [] => []
  | atStart, char :: rest =>
      if isBreak char then char :: indentLines indent true rest
      else if atStart then List.replicate indent ' ' ++ char :: indentLines indent false rest
      else char :: indentLines indent false rest

/-- A text in single quotes, in which a single quote is written twice; its further lines are
indented by so many columns. -/
def singleQuoted (indent : Nat) (chars : List Char) : List Char :=
  let doubled := chars.flatMap fun char => if char = '\'' then ['\'', '\''] else [char]
  '\'' :: match doubled with
    | [] => ['\'']
    | first :: rest => first :: indentLines indent (isBreak first) (rest ++ ['\''])

/-- Whether a text ends in an empty line, which a block shows only where it keeps all breaks. -/
def endsInEmptyLine (chars : List Char) : Bool :=
  match chars.reverse with
  | [] => false
  | last :: before => isBreak last && (before.isEmpty || before.head?.any isBreak)

/-- The marks of a block: the indentation where the first line does not show it, and what becomes
of the line breaks at the end. -/
def blockMarks (chars : List Char) : List Char :=
  let indentation := if chars.head?.any fun char => char == ' ' || isBreak char then ['2'] else []
  let chomping :=
    if endsInEmptyLine chars then ['+'] else if chars.getLast?.any isBreak then [] else ['-']
  indentation ++ chomping

/-- A text as a block whose lines are indented by so many columns. -/
def blockText (indent : Nat) (chars : List Char) : List Char :=
  let lines := indentLines indent true chars
  '|' :: blockMarks chars ++ '\n' :: if chars.getLast?.any isBreak then lines else lines ++ ['\n']

/-- Whether a text that needs marks stands as a block: it has several lines. -/
def isBlock (chars : List Char) : Bool := chars.contains '\n' && allowsBlock chars

/-- A text that needs marks, in the form that suits it, to the end of its line. -/
def quotedText (indent : Nat) (text : String) : String :=
  let chars := text.toList
  String.ofList (
    if isBlock chars then blockText indent chars
    else if !chars.contains '\n' && allowsSingleQuotes chars then
      singleQuoted indent chars ++ ['\n']
    else doubleQuoted chars ++ ['\n'])

/-- A key, which is a scalar and stands in one line. -/
def keyText : Yaml → String
  | .scalar .plain text => text
  | .scalar _ text =>
      let chars := text.toList
      String.ofList (
        if !chars.any isBreak && allowsSingleQuotes chars then singleQuoted 0 chars
        else doubleQuoted chars)
  | _ => ""

mutual

/-- A value behind a dash or at the start of the document, to the end of its last line; the
blocks in it are indented by so many columns. -/
def inlineText (indent : Nat) : Yaml → String
  | .scalar .plain text => text ++ "\n"
  | .scalar _ text => quotedText indent text
  | .sequence [] => "[]\n"
  | .mapping [] => "\x7b\x7d\n"
  | .sequence (item :: items) => itemsText indent true (item :: items)
  | .mapping (entry :: entries) => entriesText indent true (entry :: entries)

/-- The items of a sequence at a column, the first one of which may stand in a line already
begun. -/
def itemsText (indent : Nat) (begun : Bool) : List Yaml → String
  | [] => ""
  | item :: items =>
      (if begun then "" else "".pushn ' ' indent) ++ "- " ++ inlineText (indent + 2) item
        ++ itemsText indent false items

/-- The entries of a mapping at a column, the first one of which may stand in a line already
begun. -/
def entriesText (indent : Nat) (begun : Bool) : List (Yaml × Yaml) → String
  | [] => ""
  | (key, value) :: entries =>
      (if begun then "" else "".pushn ' ' indent) ++ keyText key ++ ":"
        ++ valueText indent value ++ entriesText indent false entries

/-- A value behind the colon of an entry at a column; sequences are not indented. -/
def valueText (indent : Nat) : Yaml → String
  | .sequence (item :: items) => "\n" ++ itemsText indent false (item :: items)
  | .mapping (entry :: entries) => "\n" ++ entriesText (indent + 2) false (entry :: entries)
  | .scalar .plain text => " " ++ text ++ "\n"
  | .scalar _ text => " " ++ quotedText (indent + 2) text
  | .sequence [] => " []\n"
  | .mapping [] => " \x7b\x7d\n"

end

mutual

/-- Whether the last block of a value, if it has one, ends in an empty line; `before` is that of
what precedes the value. -/
def leavesOpen (before : Bool) : Yaml → Bool
  | .scalar .plain _ => before
  | .scalar _ text =>
      let chars := text.toList
      if isBlock chars then endsInEmptyLine chars else before
  | .sequence items => itemsLeaveOpen before items
  | .mapping entries => entriesLeaveOpen before entries

/-- Whether the last block of some items ends in an empty line. -/
def itemsLeaveOpen (before : Bool) : List Yaml → Bool
  | [] => before
  | item :: items => itemsLeaveOpen (leavesOpen before item) items

/-- Whether the last block of some entries ends in an empty line. -/
def entriesLeaveOpen (before : Bool) : List (Yaml × Yaml) → Bool
  | [] => before
  | (_, value) :: entries => entriesLeaveOpen (leavesOpen before value) entries

end

/-- The text of a document, which has an end mark after a last block that keeps empty lines. -/
def print (yaml : Yaml) : String :=
  inlineText 0 yaml ++ if leavesOpen false yaml then "...\n" else ""

end ForwardTaint.Yaml
