import ForwardTaint.Json.Value

/-!
JSON text: compact on one line, or with one field or item a line and two blanks a level.
-/

namespace ForwardTaint.Json

/-- The lower-case hexadecimal digits of a number, at least `width` of them. -/
def hexDigits (width value : Nat) : String :=
  let digits := String.ofList (Nat.toDigits 16 value)
  "".pushn '0' (width - digits.length) ++ digits

/-- A character inside a JSON string. -/
def escapeChar : Char → String
  | '"' => "\\\""
  | '\\' => "\\\\"
  | '\n' => "\\n"
  | '\r' => "\\r"
  | '\t' => "\\t"
  | '\x08' => "\\b"
  | '\x0c' => "\\f"
  | char =>
      if char.toNat < 0x20 then "\\u" ++ hexDigits 4 char.toNat else String.singleton char

/-- A text as a JSON string. -/
def quote (text : String) : String :=
  "\"" ++ String.join (text.toList.map escapeChar) ++ "\""

/-- The written form of a value that holds no others. -/
def scalarText : Json → String
  | .null => "null"
  | .boolean value => if value then "true" else "false"
  | .integer value => toString value
  | .decimal text => text
  | .string value => quote value
  | .array _ => "[]"
  | .object _ => "\x7b\x7d"
  | .unusable => "null"

mutual

/-- The value on one line without blanks. -/
def compact : Json → String
  | .array items => "[" ++ String.intercalate "," (compactItems items) ++ "]"
  | .object fields => "\x7b" ++ String.intercalate "," (compactFields fields) ++ "\x7d"
  | value => value.scalarText

/-- The compact form of each item. -/
def compactItems : List Json → List String
  | [] => []
  | item :: rest => item.compact :: compactItems rest

/-- The compact form of each field. -/
def compactFields : List (String × Json) → List String
  | [] => []
  | (name, value) :: rest => (quote name ++ ":" ++ value.compact) :: compactFields rest

end

/-- A line break and the blanks of a level. -/
def lineBreak (level : Nat) : String := "\n" ++ "".pushn ' ' (2 * level)

/-- Encloses written members, one a line. -/
def enclose (opening closing : String) (level : Nat) (members : List String) : String :=
  opening ++ lineBreak (level + 1) ++ String.intercalate ("," ++ lineBreak (level + 1)) members
    ++ lineBreak level ++ closing

mutual

/-- The value with its members indented, inside `level` enclosing values. -/
def prettyAt (level : Nat) : Json → String
  | .array (item :: rest) => enclose "[" "]" level (prettyItems (level + 1) (item :: rest))
  | .object (field :: rest) =>
      enclose "\x7b" "\x7d" level (prettyFields (level + 1) (field :: rest))
  | value => value.scalarText

/-- The indented form of each item. -/
def prettyItems (level : Nat) : List Json → List String
  | [] => []
  | item :: rest => item.prettyAt level :: prettyItems level rest

/-- The indented form of each field. -/
def prettyFields (level : Nat) : List (String × Json) → List String
  | [] => []
  | (name, value) :: rest =>
      (quote name ++ ": " ++ value.prettyAt level) :: prettyFields level rest

end

/-- The value with one member a line. -/
def pretty (json : Json) : String := json.prettyAt 0

end ForwardTaint.Json
