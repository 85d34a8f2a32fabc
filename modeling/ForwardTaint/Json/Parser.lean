import ForwardTaint.Json.Number

/-!
Reading JSON text.  A lexer takes the characters one by one and yields tokens; a reader takes the
tokens one by one and holds the arrays and objects that are still open.
-/

namespace ForwardTaint.Json

/-- A punctuation mark, a text, unless it stands for none, or a word with its value. -/
inductive Token where
  | openArray
  | closeArray
  | openObject
  | closeObject
  | comma
  | colon
  | text (value : Option String)
  | word (value : Json)

/-- The value of a hexadecimal digit. -/
def hexValue? (char : Char) : Option Nat :=
  if char.isDigit then some (char.toNat - '0'.toNat)
  else if 'a' ≤ char ∧ char ≤ 'f' then some (char.toNat - 'a'.toNat + 10)
  else if 'A' ≤ char ∧ char ≤ 'F' then some (char.toNat - 'A'.toNat + 10)
  else none

/-- The number that four hexadecimal digits write. -/
def hexUnit? (first second third fourth : Char) : Option Nat := do
  let first ← hexValue? first
  let second ← hexValue? second
  let third ← hexValue? third
  let fourth ← hexValue? fourth
  return ((first * 16 + second) * 16 + third) * 16 + fourth

/-- The character that a one-letter escape stands for. -/
def shortEscape? : Char → Option Char
  | '"' => some '"'
  | '\\' => some '\\'
  | '/' => some '/'
  | 'b' => some '\x08'
  | 'f' => some '\x0c'
  | 'n' => some '\n'
  | 'r' => some '\r'
  | 't' => some '\t'
  | _ => none

/-- Whether characters between two quotes are written well: control characters are escaped, and
escapes are complete. -/
def isWellEscaped : List Char → Bool
  | [] => true
  | '\\' :: 'u' :: a :: b :: c :: d :: rest => (hexUnit? a b c d).isSome && isWellEscaped rest
  | '\\' :: letter :: rest => (shortEscape? letter).isSome && isWellEscaped rest
  | char :: rest => 0x20 ≤ char.toNat && isWellEscaped rest

/-- The characters written between two quotes; half of a surrogate pair stands for none. -/
def unescape? : List Char → Option (List Char)
  | [] => some []
  | '\\' :: 'u' :: a :: b :: c :: d :: rest =>
      match hexUnit? a b c d with
      | none => none
      | some unit =>
          if unit < 0xD800 ∨ 0xDFFF < unit then (unescape? rest).map (Char.ofNat unit :: ·)
          else if 0xDC00 ≤ unit then none
          else match rest with
            | '\\' :: 'u' :: a :: b :: c :: d :: rest =>
                match hexUnit? a b c d with
                | none => none
                | some low =>
                    if 0xDC00 ≤ low ∧ low ≤ 0xDFFF then
                      let code := 0x10000 + (unit - 0xD800) * 0x400 + (low - 0xDC00)
                      (unescape? rest).map (Char.ofNat code :: ·)
                    else none
            | _ => none
  | '\\' :: letter :: rest =>
      match shortEscape? letter with
      | some char => (unescape? rest).map (char :: ·)
      | none => none
  | char :: rest => if char.toNat < 0x20 then none else (unescape? rest).map (char :: ·)

/-- The value of a word outside strings: a keyword or a number. -/
def wordValue? (word : List Char) : Option Json :=
  match String.ofList word with
  | "true" => some (.boolean true)
  | "false" => some (.boolean false)
  | "null" => some .null
  | text => (NumberText.ofChars? word).map fun number => number.toJson text

/-- The token of a punctuation mark. -/
def punctuation? : Char → Option Token
  | '[' => some .openArray
  | ']' => some .closeArray
  | '\x7b' => some .openObject
  | '\x7d' => some .closeObject
  | ',' => some .comma
  | ':' => some .colon
  | _ => none

/-- Whether a character only separates tokens. -/
def isBlank (char : Char) : Bool :=
  char == ' ' || char == '\n' || char == '\r' || char == '\t'

/-- What the lexer is inside of; the characters read so far stand last first. -/
inductive Lexer.Mode where
  | between
  | word (done : List Char)
  | string (done : List Char) (escaped : Bool)

/-- The state of the lexer: its mode and the tokens read so far, last first. -/
structure Lexer where
  mode : Lexer.Mode
  tokens : List Token

namespace Lexer

/-- Ends the word that is being read. -/
def finishWord? (lexer : Lexer) : Option Lexer :=
  match lexer.mode with
  | .word done => (wordValue? done.reverse).map fun value =>
      ⟨.between, .word value :: lexer.tokens⟩
  | _ => some lexer

/-- Takes a character outside strings and words. -/
def start (lexer : Lexer) (char : Char) : Lexer :=
  if isBlank char then lexer
  else match punctuation? char with
    | some token => ⟨.between, token :: lexer.tokens⟩
    | none => if char == '"' then ⟨.string [] false, lexer.tokens⟩ else ⟨.word [char], lexer.tokens⟩

/-- Takes the next character. -/
def step? (lexer : Lexer) (char : Char) : Option Lexer :=
  match lexer.mode with
  | .between => some (lexer.start char)
  | .word done =>
      if isBlank char || (punctuation? char).isSome || char == '"' then
        lexer.finishWord?.map (·.start char)
      else some ⟨.word (char :: done), lexer.tokens⟩
  | .string done true => some ⟨.string (char :: done) false, lexer.tokens⟩
  | .string done false =>
      if char == '"' then
        let chars := done.reverse
        if isWellEscaped chars then
          some ⟨.between, .text ((unescape? chars).map String.ofList) :: lexer.tokens⟩
        else none
      else some ⟨.string (char :: done) (char == '\\'), lexer.tokens⟩

end Lexer

/-- The tokens of a text. -/
def tokens? (text : String) : Option (List Token) := do
  let lexer ← text.toList.foldlM Lexer.step? ⟨.between, []⟩
  let lexer ← lexer.finishWord?
  match lexer.mode with
  | .between => some lexer.tokens.reverse
  | _ => none

/-- An array or object that is still open, its members last first; an object also holds the name
whose value is being read, and whether all names so far stand for texts. -/
inductive Reader.Frame where
  | items (done : List Json)
  | fields (done : List (String × Json)) (name : Option String) (isUsable : Bool)

/-- What the reader takes next. -/
inductive Reader.Phase where
  | value
  | firstItem
  | name
  | firstName
  | colon
  | separator
  | complete (value : Json)

/-- The state of the reader: what it takes next and what is still open, innermost first. -/
structure Reader where
  phase : Reader.Phase
  frames : List Reader.Frame

namespace Reader

/-- Puts a complete value into the innermost open container. -/
def deliver? (frames : List Frame) (value : Json) : Option Reader :=
  match frames with
  | [] => some ⟨.complete value, []⟩
  | .items done :: rest => some ⟨.separator, .items (value :: done) :: rest⟩
  | .fields done (some name) isUsable :: rest =>
      some ⟨.separator, .fields ((name, value) :: done) none isUsable :: rest⟩
  | .fields _ none _ :: _ => none

/-- Takes the first token of a value. -/
def takeValue? (frames : List Frame) : Token → Option Reader
  | .text (some value) => deliver? frames (.string value)
  | .text none => deliver? frames .unusable
  | .word value => deliver? frames value
  | .openArray => some ⟨.firstItem, .items [] :: frames⟩
  | .openObject => some ⟨.firstName, .fields [] none true :: frames⟩
  | _ => none

/-- Takes the name of a field. -/
def takeName? (frames : List Frame) (token : Token) : Option Reader :=
  match token, frames with
  | .text name, .fields done _ isUsable :: rest =>
      some ⟨.colon, .fields done (some (name.getD "")) (isUsable && name.isSome) :: rest⟩
  | _, _ => none

/-- Closes the innermost container, which is not usable inside `limit` others. -/
def close? (limit : Option Nat) (frames : List Frame) (token : Token) : Option Reader :=
  match token, frames with
  | .closeArray, .items done :: rest =>
      deliver? rest (if limit.any (· ≤ rest.length) then .unusable else .array done.reverse)
  | .closeObject, .fields done _ isUsable :: rest =>
      let tooDeep := limit.any (· ≤ rest.length)
      deliver? rest (if tooDeep || !isUsable then .unusable else .object done.reverse)
  | _, _ => none

/-- Takes what may follow a member. -/
def takeSeparator? (limit : Option Nat) (frames : List Frame) (token : Token) : Option Reader :=
  match token, frames with
  | .comma, .items done :: rest => some ⟨.value, .items done :: rest⟩
  | .comma, .fields done name isUsable :: rest => some ⟨.name, .fields done name isUsable :: rest⟩
  | token, frames => close? limit frames token

/-- Takes the next token. -/
def step? (limit : Option Nat) (reader : Reader) (token : Token) : Option Reader :=
  match reader.phase with
  | .value => takeValue? reader.frames token
  | .firstItem =>
      match token with
      | .closeArray => close? limit reader.frames token
      | _ => takeValue? reader.frames token
  | .name => takeName? reader.frames token
  | .firstName =>
      match token with
      | .closeObject => close? limit reader.frames token
      | _ => takeName? reader.frames token
  | .colon =>
      match token with
      | .colon => some ⟨.value, reader.frames⟩
      | _ => none
  | .separator => takeSeparator? limit reader.frames token
  | .complete _ => none

end Reader

/-- Reads a text that holds one value.  Parts that stand for no value, and containers inside
`limit` others, are marked as unusable, so that a reader of records can pass over them. -/
def ofText? (limit : Option Nat) (text : String) : Option Json := do
  let tokens ← tokens? text
  let reader ← tokens.foldlM (Reader.step? limit) ⟨.value, []⟩
  match reader.phase with
  | .complete value => some value
  | _ => none

/-- Reads a text that holds one value, all of which is usable. -/
def parse? (text : String) : Option Json := (ofText? none text).filter isUsable

end ForwardTaint.Json
