import ForwardTaint.Yaml.Scalar

/-!
The tokens of YAML text.  Indentation becomes marks around blocks.  Whether a word is the key of a
mapping only shows at the colon behind it, and then a mark is put in front of that word.
-/

namespace ForwardTaint.Yaml

inductive Token where
  | versionDirective (major minor : Nat)
  | tagDirective (handle start : String)
  | documentStart
  | documentEnd
  | blockSequenceStart
  | blockMappingStart
  | blockEnd
  | flowSequenceStart
  | flowSequenceEnd
  | flowMappingStart
  | flowMappingEnd
  | blockEntry
  | flowEntry
  | key
  | value
  | anchor (name : String)
  | aliasTo (name : String)
  | tag (handle rest : String)
  | scalar (unquoted : Bool) (text : String)
  deriving DecidableEq

/-- A place in front of which a key can turn out to begin, with the number of tokens before it; a
required one must turn out to be a key. -/
structure PossibleKey where
  tokenCount : Nat
  line : Nat
  column : Nat
  required : Bool

/-- The state of the lexer: the tokens so far, last first, with their number; the columns of the
open blocks, innermost first; and for each open flow collection and the level outside of them
whether a key may have begun, innermost first. -/
structure Lexer where
  cursor : Cursor
  tokens : List Token
  count : Nat
  indents : List Nat
  keyAllowed : Bool
  possibleKey : Option PossibleKey
  outerKeys : List (Option PossibleKey)

namespace Lexer

/-- The lexer in front of a text. -/
def start (chars : List Char) : Lexer := ⟨⟨0, 0, chars⟩, [], 0, [], true, none, []⟩

def inFlow (lexer : Lexer) : Bool := !lexer.outerKeys.isEmpty

/-- Adds a token. -/
def push (lexer : Lexer) (token : Token) : Lexer :=
  { lexer with tokens := token :: lexer.tokens, count := lexer.count + 1 }

/-- Adds tokens behind the first so many. -/
def insert (lexer : Lexer) (position : Nat) (tokens : List Token) : Lexer :=
  let later := lexer.count - position
  { lexer with
    tokens := lexer.tokens.take later ++ tokens.reverse ++ lexer.tokens.drop later
    count := lexer.count + tokens.length }

/-- Moves on by so many characters of the line. -/
def skip (lexer : Lexer) (count : Nat) : Lexer :=
  { lexer with cursor := lexer.cursor.skip count }

/-- Adds a token of so many characters. -/
def take (lexer : Lexer) (count : Nat) (token : Token) : Lexer := (lexer.push token).skip count

/-- Closes the blocks whose column is not kept. -/
def closeBlocks (keep : Nat → Bool) : List Nat → List Token → Nat → List Nat × List Token × Nat
  | [], tokens, count => ([], tokens, count)
  | indent :: indents, tokens, count =>
      if keep indent then (indent :: indents, tokens, count)
      else closeBlocks keep indents (.blockEnd :: tokens) (count + 1)

/-- Closes the blocks whose column is not kept; in flow collections indentation has no meaning. -/
def unroll (lexer : Lexer) (keep : Nat → Bool) : Lexer :=
  if lexer.inFlow then lexer
  else
    let (indents, tokens, count) := closeBlocks keep lexer.indents lexer.tokens lexer.count
    { lexer with indents, tokens, count }

/-- Closes all blocks. -/
def unrollAll (lexer : Lexer) : Lexer := lexer.unroll fun _ => false

/-- Opens a block at a column to the right of the innermost one, its mark behind the first so many
tokens. -/
def roll (lexer : Lexer) (column position : Nat) (mark : Token) : Lexer :=
  if lexer.inFlow || lexer.indents.head?.any (column ≤ ·) then lexer
  else { lexer.insert position [mark] with indents := column :: lexer.indents }

/-- Gives up the possible key of this level. -/
def dropKey? (lexer : Lexer) : Option Lexer :=
  if lexer.possibleKey.any PossibleKey.required then none
  else some { lexer with possibleKey := none }

/-- Notes that a key may begin here. -/
def saveKey? (lexer : Lexer) : Option Lexer :=
  if lexer.keyAllowed then
    let cursor := lexer.cursor
    lexer.dropKey?.map fun lexer =>
      { lexer with
        possibleKey := some ⟨lexer.count, cursor.line, cursor.column,
          !lexer.inFlow && lexer.indents.head? == some cursor.column⟩ }
  else some lexer

/-- The possible key unless it is too far behind: a key stands on one line and is not longer than
1024 characters. -/
def freshKey? (cursor : Cursor) (key : Option PossibleKey) : Option (Option PossibleKey) :=
  match key with
  | none => some none
  | some possible =>
      if possible.line < cursor.line || possible.column + 1024 < cursor.column then
        if possible.required then none else some none
      else some (some possible)

/-- Gives up the possible keys that are too far behind. -/
def dropStale? (lexer : Lexer) : Option Lexer := do
  let possibleKey ← freshKey? lexer.cursor lexer.possibleKey
  let outerKeys ← lexer.outerKeys.mapM (freshKey? lexer.cursor)
  return { lexer with possibleKey, outerKeys }

/-- Passes over blanks, comments and line breaks.  A tab does not indent: it only counts as a blank
in flow collections and behind a token.  A new line may begin with a key. -/
def passSpace (inFlow : Bool) : (keyAllowed inComment : Bool) → (line column : Nat) →
    List Char → Bool × Cursor
  | keyAllowed, _, line, column, [] => (keyAllowed, ⟨line, column, []⟩)
  | keyAllowed, inComment, line, column, char :: rest =>
      if isBreak char then passSpace inFlow (keyAllowed || !inFlow) false (line + 1) 0 rest
      else if inComment || char = '#' then
        passSpace inFlow keyAllowed true line (column + 1) rest
      else if char = ' ' || (char = '\t' && (inFlow || !keyAllowed)) then
        passSpace inFlow keyAllowed false line (column + 1) rest
      else (keyAllowed, ⟨line, column, char :: rest⟩)

/-- Passes over what stands between tokens. -/
def skipSpace (lexer : Lexer) : Lexer :=
  let (keyAllowed, cursor) := passSpace lexer.inFlow lexer.keyAllowed false lexer.cursor.line
    lexer.cursor.column lexer.cursor.rest
  { lexer with keyAllowed, cursor }

/-- Takes a scalar that was read. -/
def takeScalar (lexer : Lexer) (unquoted : Bool) (text : String) (cursor : Cursor) : Lexer :=
  { lexer.push (.scalar unquoted text) with cursor }

/-- Takes the beginning of a flow collection. -/
def openFlow? (lexer : Lexer) (token : Token) : Option Lexer :=
  lexer.saveKey?.map fun lexer =>
    { lexer.take 1 token with
      outerKeys := lexer.possibleKey :: lexer.outerKeys, possibleKey := none, keyAllowed := true }

/-- Takes the end of a flow collection. -/
def closeFlow? (lexer : Lexer) (token : Token) : Option Lexer :=
  lexer.dropKey?.map fun lexer =>
    let lexer := { lexer.take 1 token with keyAllowed := false }
    match lexer.outerKeys with
    | [] => lexer
    | possibleKey :: outerKeys => { lexer with possibleKey, outerKeys }

/-- Takes the comma of a flow collection. -/
def takeComma? (lexer : Lexer) : Option Lexer :=
  lexer.dropKey?.map fun lexer => { lexer.take 1 .flowEntry with keyAllowed := true }

/-- Takes the dash of an item. -/
def takeDash? (lexer : Lexer) : Option Lexer :=
  if !lexer.inFlow && !lexer.keyAllowed then none
  else
    let lexer := lexer.roll lexer.cursor.column lexer.count .blockSequenceStart
    lexer.dropKey?.map fun lexer => { lexer.take 1 .blockEntry with keyAllowed := true }

/-- Takes the mark of a key. -/
def takeKeyMark? (lexer : Lexer) : Option Lexer :=
  if !lexer.inFlow && !lexer.keyAllowed then none
  else
    let lexer := lexer.roll lexer.cursor.column lexer.count .blockMappingStart
    lexer.dropKey?.map fun lexer => { lexer.take 1 .key with keyAllowed := !lexer.inFlow }

/-- Takes the colon in front of a value. -/
def takeColon? (lexer : Lexer) : Option Lexer :=
  match lexer.possibleKey with
  | some possible =>
      let lexer := lexer.insert possible.tokenCount [.key]
      let lexer := lexer.roll possible.column possible.tokenCount .blockMappingStart
      some { lexer.take 1 .value with possibleKey := none, keyAllowed := false }
  | none =>
      if !lexer.inFlow && !lexer.keyAllowed then none
      else
        let lexer := lexer.roll lexer.cursor.column lexer.count .blockMappingStart
        some { lexer.take 1 .value with keyAllowed := !lexer.inFlow }

/-- Takes a mark between documents. -/
def takeDocumentMark? (lexer : Lexer) (token : Token) : Option Lexer :=
  lexer.unrollAll.dropKey?.map fun lexer => { lexer.take 3 token with keyAllowed := false }

/-- Takes the name of an anchor or an alias behind its first character. -/
def takeName? (lexer : Lexer) (token : String → Token) : Option Lexer :=
  lexer.saveKey?.bind fun lexer =>
    let name := (lexer.cursor.rest.drop 1).takeWhile isNameChar
    let rest := (lexer.cursor.rest.drop 1).dropWhile isNameChar
    if name.isEmpty then none
    else if endsWord rest || rest.head?.any ("?:,]\x7d%@\x60".toList.contains ·) then
      some { lexer.take (name.length + 1) (token (String.ofList name)) with keyAllowed := false }
    else none

/-- Whether a character may stand in the name of a tag. -/
def isTagChar (verbatim : Bool) (char : Char) : Bool :=
  isNameChar char || ";/?:@&=+$.!~*'()%".toList.contains char
    || (verbatim && (char == ',' || char == '[' || char == ']'))

/-- The handle that a tag begins with, the rest of its name, and the characters behind it.  A tag in
angle brackets and a bare exclamation mark have an empty handle. -/
def readTag? (rest : List Char) : Option (String × String × List Char) :=
  match rest with
  | '!' :: '<' :: rest =>
      let name := rest.takeWhile (isTagChar true)
      match rest.dropWhile (isTagChar true) with
      | '>' :: rest => if name.isEmpty then none else some ("", String.ofList name, rest)
      | _ => none
  | '!' :: rest =>
      let word := rest.takeWhile isNameChar
      match rest.dropWhile isNameChar with
      | '!' :: rest =>
          let name := rest.takeWhile (isTagChar false)
          if name.isEmpty then none
          else
            some ("!" ++ String.ofList word ++ "!", String.ofList name,
              rest.dropWhile (isTagChar false))
      | further =>
          let name := word ++ further.takeWhile (isTagChar false)
          let further := further.dropWhile (isTagChar false)
          some (if name.isEmpty then ("", "!", further) else ("!", String.ofList name, further))
  | _ => none

/-- Takes a tag. -/
def takeTag? (lexer : Lexer) : Option Lexer := do
  let lexer ← lexer.saveKey?
  let (handle, name, rest) ← readTag? lexer.cursor.rest
  if endsWord rest || (lexer.inFlow && rest.head? = some ',') then
    return { lexer.take (lexer.cursor.rest.length - rest.length) (.tag handle name) with
      keyAllowed := false }
  else none

/-- Reads a number of at most nine digits. -/
def readVersion? (rest : List Char) : Option (Nat × List Char) :=
  let digits := rest.takeWhile Char.isDigit
  if digits.isEmpty || 9 < digits.length then none
  else some (Json.digitsValue digits, rest.dropWhile Char.isDigit)

/-- Reads a directive behind its first character. -/
def readDirective? (rest : List Char) : Option (Token × List Char) := do
  let name := rest.takeWhile isNameChar
  let rest := rest.dropWhile isNameChar
  if !endsWord rest then none
  let rest := rest.dropWhile isBlank
  match String.ofList name with
  | "YAML" =>
      let (major, rest) ← readVersion? rest
      match rest with
      | '.' :: rest =>
          let (minor, rest) ← readVersion? rest
          return (.versionDirective major minor, rest)
      | _ => none
  | "TAG" =>
      match rest with
      | '!' :: rest =>
          let word := rest.takeWhile isNameChar
          let (handle, rest) ← match rest.dropWhile isNameChar with
            | '!' :: rest => some ("!" ++ String.ofList word ++ "!", rest)
            | rest => if word.isEmpty then some ("!", rest) else none
          if !rest.head?.any isBlank then none
          let rest := rest.dropWhile isBlank
          let start := rest.takeWhile (isTagChar true)
          let rest := rest.dropWhile (isTagChar true)
          if start.isEmpty || !endsWord rest then none
          return (.tagDirective handle (String.ofList start), rest)
      | _ => none
  | _ => none

/-- Takes a directive, which nothing but a comment may follow in its line. -/
def takeDirective? (lexer : Lexer) : Option Lexer := do
  let lexer ← lexer.unrollAll.dropKey?
  let (token, rest) ← readDirective? (lexer.cursor.rest.drop 1)
  let lexer := lexer.take (lexer.cursor.rest.length - rest.length) token
  let cursor ← lexer.cursor.skipComment.nextLine?
  return { lexer with cursor, keyAllowed := false }

/-- Takes a block scalar. -/
def takeBlockScalar? (lexer : Lexer) (folded : Bool) : Option Lexer := do
  let lexer ← lexer.dropKey?
  let (text, cursor) ← readBlockScalar folded lexer.indents.head? (lexer.cursor.skip 1)
  return { lexer.takeScalar false text cursor with keyAllowed := true }

/-- Takes a quoted scalar. -/
def takeQuoted? (lexer : Lexer) (double : Bool) : Option Lexer := do
  let lexer ← lexer.saveKey?
  let cursor := lexer.cursor.skip 1
  let (text, cursor) ← readQuoted double .reading (.start cursor) cursor.rest
  return { lexer.takeScalar false text cursor with keyAllowed := false }

/-- Takes a plain scalar. -/
def takePlain? (lexer : Lexer) : Option Lexer := do
  let lexer ← lexer.saveKey?
  let (text, spansLines, cursor) ← readPlain lexer.inFlow (lexer.indents.head?.elim 0 (· + 1))
    (.start lexer.cursor) lexer.cursor.rest
  return { lexer.takeScalar true text cursor with keyAllowed := spansLines }

/-- Whether a plain scalar may begin with the character in front of `rest`. -/
def startsPlain (inFlow : Bool) (char : Char) (rest : List Char) : Bool :=
  if isBlank char then false
  else if char = '-' then !rest.head?.any isBlank
  else if char = '?' || char = ':' then !inFlow && !endsWord rest
  else !",[]\x7b\x7d#&*!|>'\"%@\x60".toList.contains char

/-- Takes the token that begins with a character. -/
def takeToken? (lexer : Lexer) (char : Char) (rest : List Char) : Option Lexer :=
  let atMargin := lexer.cursor.column == 0
  if atMargin && char == '%' then lexer.takeDirective?
  else if atMargin && isDocumentMark (char :: rest) then
    lexer.takeDocumentMark? (if char == '-' then .documentStart else .documentEnd)
  else if char == '[' then lexer.openFlow? .flowSequenceStart
  else if char == '\x7b' then lexer.openFlow? .flowMappingStart
  else if char == ']' then lexer.closeFlow? .flowSequenceEnd
  else if char == '\x7d' then lexer.closeFlow? .flowMappingEnd
  else if char == ',' then lexer.takeComma?
  else if char == '-' && endsWord rest then lexer.takeDash?
  else if char == '?' && (lexer.inFlow || endsWord rest) then lexer.takeKeyMark?
  else if char == ':' && (lexer.inFlow || endsWord rest) then lexer.takeColon?
  else if char == '*' then lexer.takeName? .aliasTo
  else if char == '&' then lexer.takeName? .anchor
  else if char == '!' then lexer.takeTag?
  else if (char == '|' || char == '>') && !lexer.inFlow then lexer.takeBlockScalar? (char == '>')
  else if char == '\'' || char == '"' then lexer.takeQuoted? (char == '"')
  else if startsPlain lexer.inFlow char rest then lexer.takePlain?
  else none

/-- Takes tokens until the text ends.  Each token has a character of its own, so as many rounds as
there are characters, and one for the end, suffice. -/
def run : Nat → Lexer → Option (List Token)
  | 0, _ => none
  | rounds + 1, lexer => do
      let lexer ← lexer.skipSpace.dropStale?
      let lexer := lexer.unroll (· ≤ lexer.cursor.column)
      match lexer.cursor.rest with
      | [] => return (← lexer.unrollAll.dropKey?).tokens.reverse
      | char :: rest => run rounds (← lexer.takeToken? char rest)

end Lexer

/-- The tokens of a text, which may begin with a byte order mark. -/
def tokens? (text : String) : Option (List Token) :=
  let chars := match text.toList with
    | '\ufeff' :: rest => rest
    | chars => chars
  if chars.all isAllowed then (Lexer.start (withUniformBreaks chars)).run (chars.length + 1)
  else none

end ForwardTaint.Yaml
