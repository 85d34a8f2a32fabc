import ForwardTaint.Guard.Condition
import ForwardTaint.Program.Json

/-!
The JSON form of guard conditions.
-/

namespace ForwardTaint

namespace GuardOperator

/-- The written names of the checks. -/
def choices : List (String × GuardOperator) :=
  [startsWith, contains, equals, equalsIgnoreCase, isNull].map fun operator =>
    (operator.methodName, operator)

def toJson (operator : GuardOperator) : Json := .string operator.methodName

end GuardOperator

namespace GuardOperand

def toJson : GuardOperand → Json
  | .literal value => .object [("kind", .string "literal"), ("value", .string value)]
  | .constant name value =>
      .object [("kind", .string "constant"), ("name", .string name), ("value", .string value)]
  | .variable name => .object [("kind", .string "variable"), ("name", .string name)]
  | .other text => .object [("kind", .string "other"), ("text", .string text)]
  | .none => .object [("kind", .string "none")]

def ofJson? (json : Json) : Option GuardOperand := do
  let (kind, record) ← json.tagged? "kind"
  match kind with
  | "literal" => (record.single? "value" Json.string?).map .literal
  | "constant" => do
      let fields ← record.fields? ["name", "value"]
      return .constant (← fields.required? "name" Json.string?)
        (← fields.required? "value" Json.string?)
  | "variable" => (record.single? "name" Json.string?).map .variable
  | "other" => (record.single? "text" Json.string?).map .other
  | "none" => if record.isBare then some .none else Option.none
  | _ => Option.none

end GuardOperand

namespace GuardAtom

def toJson (atom : GuardAtom) : Json :=
  .object [("subject", .string atom.subject), ("operator", atom.operator.toJson),
    ("operand", atom.operand.toJson), ("negated", .boolean atom.negated)]

def ofJson? (json : Json) : Option GuardAtom := do
  let fields ← json.fields? ["subject", "operator", "operand", "negated"]
  return ⟨← fields.required? "subject" Json.string?,
    ← fields.required? "operator" (Json.choice? GuardOperator.choices),
    ← fields.required? "operand" GuardOperand.ofJson?, ← fields.required? "negated" Json.boolean?⟩

end GuardAtom

namespace GuardCondition

def toJson (guard : GuardCondition) : Json :=
  .object [("id", .ofNat guard.id), ("text", .string guard.text), ("span", guard.span.toJson),
    ("on_true", .array (guard.onTrue.map GuardAtom.toJson)),
    ("on_false", .array (guard.onFalse.map GuardAtom.toJson)),
    ("opaque_subjects", .ofStrings guard.opaqueSubjects),
    ("alias", .ofOption .string guard.flagName)]

def ofJson? (json : Json) : Option GuardCondition := do
  let fields ← json.fields?
    ["id", "text", "span", "on_true", "on_false", "opaque_subjects", "alias"]
  return ⟨← fields.required? "id" Json.count?, ← fields.required? "text" Json.string?,
    ← fields.required? "span" Span.ofJson?,
    ← fields.required? "on_true" (Json.list? GuardAtom.ofJson?),
    ← fields.required? "on_false" (Json.list? GuardAtom.ofJson?),
    ← fields.required? "opaque_subjects" (Json.list? Json.string?),
    ← fields.placed? "alias" Json.string?⟩

end GuardCondition

end ForwardTaint
