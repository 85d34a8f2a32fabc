import ForwardTaint.Yaml.Meaning

/-!
Reading records out of YAML mappings.  A record names its fields; other keys and repeated ones are
errors.
-/

namespace ForwardTaint.Yaml

/-- The written fields of a record by name. -/
structure Fields where
  values : List (String × Yaml)

namespace Fields

/-- Reads a field that must be written. -/
def required? {Value : Type} (fields : Fields) (name : String) (decode : Yaml → Option Value) :
    Option Value :=
  (fields.values.lookup name).bind decode

/-- Reads a field that has a default. -/
def orDefault? {Value : Type} (fields : Fields) (name : String) (default : Value)
    (decode : Yaml → Option Value) : Option Value :=
  match fields.values.lookup name with
  | some value => decode value
  | none => some default

/-- Reads a field that may be left out or hold nothing. -/
def optional? {Value : Type} (fields : Fields) (name : String) (decode : Yaml → Option Value) :
    Option (Option Value) :=
  match fields.values.lookup name with
  | some value =>
      value.isNull?.bind fun isNull => if isNull then some none else (decode value).map some
  | none => some none

end Fields

/-- The entries of a mapping by their keys; where nothing is written there are none. -/
def entries? (yaml : Yaml) : Option (List (String × Yaml)) :=
  match yaml with
  | .mapping entries => entries.mapM fun (key, value) => key.string?.map fun name => (name, value)
  | _ => if yaml.isEmpty then some [] else none

/-- The fields of a record with the given names. -/
def fields? (names : List String) (yaml : Yaml) : Option Fields := do
  let entries ← yaml.entries?
  let keys := entries.map Prod.fst
  if keys.all names.contains && keys.eraseDups.length = keys.length then return ⟨entries⟩ else none

end ForwardTaint.Yaml
