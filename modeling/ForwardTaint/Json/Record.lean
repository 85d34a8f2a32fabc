import ForwardTaint.Json.Value

/-!
Reading domain values out of JSON.

A record is written as an object, or as an array of its fields in the order of declaration.
`fields?` brings both forms to a place for each declared field, which `Fields.required?`,
`Fields.optional?` and `Fields.orDefault?` then read as the declaration says.
-/

namespace ForwardTaint.Json

/-- One declared field of a record as it was found: a field is omitted from an object, and missing
from an array that is too short for it. -/
inductive Field where
  | present (value : Json)
  | omitted
  | missing

/-- The declared fields of a record with what was found for each. -/
structure Fields where
  places : List (String × Field)

namespace Fields

/-- What was found for a declared field. -/
def place (fields : Fields) (name : String) : Field := (fields.places.lookup name).getD .missing

/-- Reads a field that must be written. -/
def required? {Value : Type} (fields : Fields) (name : String) (decode : Json → Option Value) :
    Option Value :=
  match fields.place name with
  | .present value => decode value
  | _ => none

/-- Reads a field that has a default. -/
def orDefault? {Value : Type} (fields : Fields) (name : String) (default : Value)
    (decode : Json → Option Value) : Option Value :=
  match fields.place name with
  | .present value => decode value
  | _ => some default

/-- Reads a field whose absence and whose `null` both mean no value. -/
def optional? {Value : Type} (fields : Fields) (name : String) (decode : Json → Option Value) :
    Option (Option Value) :=
  match fields.place name with
  | .present .null => some none
  | .present value => (decode value).map some
  | _ => some none

/-- Reads an optional field without a declared default: an array must have a place for it. -/
def placed? {Value : Type} (fields : Fields) (name : String) (decode : Json → Option Value) :
    Option (Option Value) :=
  match fields.place name with
  | .missing => none
  | _ => fields.optional? name decode

end Fields

/-- What an object holds for one declared name; a name written twice has no place. -/
def place? (fields : List (String × Json)) (name : String) : Option (String × Field) :=
  match fields.filter fun field => field.1 == name with
  | [] => some (name, .omitted)
  | [field] => some (name, .present field.2)
  | _ => none

/-- What an array holds for declared fields, whose values stand in order. -/
def places? : List String → List Json → Option (List (String × Field))
  | [], [] => some []
  | [], _ :: _ => none
  | name :: names, [] => (places? names []).map ((name, .missing) :: ·)
  | name :: names, value :: rest => (places? names rest).map ((name, .present value) :: ·)

/-- The declared fields of a record; undeclared ones are passed over. -/
def fields? (names : List String) : Json → Option Fields
  | .object fields => (names.mapM (place? fields)).map Fields.mk
  | .array values => (places? names values).map Fields.mk
  | _ => none

/-- The declared fields of a record that holds no others. -/
def strictFields? (names : List String) (json : Json) : Option Fields :=
  match json with
  | .object fields =>
      if fields.all fun field => names.contains field.1 then json.fields? names else none
  | _ => json.fields? names

/-- Reads a record of one field that must be written. -/
def single? {Value : Type} (name : String) (decode : Json → Option Value) (json : Json) :
    Option Value :=
  (json.fields? [name]).bind fun fields => fields.required? name decode

/-- Splits a tagged record into its tag and the record without it. -/
def tagged? (tag : String) : Json → Option (String × Json)
  | .object fields =>
      match fields.filter fun field => field.1 == tag with
      | [(_, .string name)] => some (name, .object (fields.filter fun field => field.1 != tag))
      | _ => none
  | .array (.string name :: rest) => some (name, .array rest)
  | _ => none

/-- Whether a record without fields may be written so. -/
def isBare : Json → Bool
  | .object _ => true
  | .array items => items.isEmpty
  | _ => false

/-- A text. -/
def string? : Json → Option String
  | .string value => some value
  | _ => none

/-- A truth value. -/
def boolean? : Json → Option Bool
  | .boolean value => some value
  | _ => none

/-- An unsigned integer below a bound. -/
def natBelow? (bound : Nat) : Json → Option Nat
  | .integer (.ofNat value) => if value < bound then some value else none
  | _ => none

/-- An unsigned integer of 32 bits. -/
def word32? (json : Json) : Option UInt32 := (json.natBelow? UInt32.size).map UInt32.ofNat

/-- An unsigned integer of 64 bits. -/
def word64? (json : Json) : Option UInt64 := (json.natBelow? UInt64.size).map UInt64.ofNat

/-- A number of 64 bits, such as an index or a count. -/
def count? (json : Json) : Option Nat := json.natBelow? UInt64.size

/-- Reads every item of an array. -/
def list? {Value : Type} (decode : Json → Option Value) : Json → Option (List Value)
  | .array items => items.mapM decode
  | _ => none

/-- Reads the alternative with the written name; an object with that one name and nothing behind
it is written for it too. -/
def choice? {Value : Type} (choices : List (String × Value)) : Json → Option Value
  | .string name => choices.lookup name
  | .object [(name, .null)] => choices.lookup name
  | _ => none

end ForwardTaint.Json
