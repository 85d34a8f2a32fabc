/-!
JSON values.  Objects keep their fields in written order, repetitions included, so that a reader
of records can tell a repeated field from a single one.
-/

namespace ForwardTaint

/-- A JSON value; a number that is no 64-bit integer keeps its written text.  What is written well
but stands for no value, such as half of a surrogate pair, is only good to be passed over. -/
inductive Json where
  | null
  | boolean (value : Bool)
  | integer (value : Int)
  | decimal (text : String)
  | string (value : String)
  | array (items : List Json)
  | object (fields : List (String × Json))
  | unusable
  deriving Inhabited

namespace Json

/-- The last value written for a name. -/
def field? (json : Json) (name : String) : Option Json :=
  match json with
  | .object fields => (fields.reverse.find? fun field => field.1 == name).map Prod.snd
  | _ => none

mutual

/-- The value in which a repeated field of an object counts only with its last occurrence. -/
def lastWins : Json → Json
  | .array items => .array (lastWinsItems items)
  | .object fields => .object (lastWinsFields fields)
  | value => value

/-- Applies `lastWins` to every item. -/
def lastWinsItems : List Json → List Json
  | [] => []
  | item :: rest => item.lastWins :: lastWinsItems rest

/-- Drops each field that a later one of the same name replaces. -/
def lastWinsFields : List (String × Json) → List (String × Json)
  | [] => []
  | (name, value) :: rest =>
      if rest.any fun field => field.1 == name then lastWinsFields rest
      else (name, value.lastWins) :: lastWinsFields rest

end

mutual

/-- The number of nested values on the longest way down. -/
def depth : Json → Nat
  | .array items => depthOfItems items + 1
  | .object fields => depthOfFields fields + 1
  | _ => 1

/-- The greatest depth of an item. -/
def depthOfItems : List Json → Nat
  | [] => 0
  | item :: rest => max item.depth (depthOfItems rest)

/-- The greatest depth of a field's value. -/
def depthOfFields : List (String × Json) → Nat
  | [] => 0
  | (_, value) :: rest => max value.depth (depthOfFields rest)

end

mutual

/-- Whether all parts stand for values. -/
def isUsable : Json → Bool
  | .array items => areUsable items
  | .object fields => areFieldsUsable fields
  | .unusable => false
  | _ => true

/-- Whether all items are usable. -/
def areUsable : List Json → Bool
  | [] => true
  | item :: rest => item.isUsable && areUsable rest

/-- Whether the values of all fields are usable. -/
def areFieldsUsable : List (String × Json) → Bool
  | [] => true
  | (_, value) :: rest => value.isUsable && areFieldsUsable rest

end

/-- An unsigned number as JSON. -/
def ofNat (value : Nat) : Json := .integer value

/-- A list of texts as JSON. -/
def ofStrings (values : List String) : Json := .array (values.map .string)

/-- A value that may be absent, absence being `null`. -/
def ofOption {Value : Type} (encode : Value → Json) : Option Value → Json
  | none => .null
  | some value => encode value

end Json

end ForwardTaint
