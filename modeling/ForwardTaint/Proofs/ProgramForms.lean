import ForwardTaint.Program.Json
import ForwardTaint.Proofs.RecordForms

/-!
The forms of programs in JSON.  Every part of a program is a record that holds the declared fields, those
with a default only if they have another value or happen to be written.  What a program is written as is a
form of it, and each of its forms is read as the program, however deep it nests.
-/

namespace ForwardTaint

open Json (IsText IsRecord IsTagged IsOption IsArray IsList Fields)
open Json.DeclaredField (required defaulted)

/-- An object of the texts in a map. -/
def StringMap.IsForm (map : StringMap String) (json : Json) : Prop := json = map.toJson .string

namespace Span

def IsForm (span : Span) : Json → Prop :=
  IsRecord [required "start_line" (· = .ofNat span.startLine.toNat),
    required "start_col" (· = .ofNat span.startColumn.toNat),
    required "end_line" (· = .ofNat span.endLine.toNat),
    required "end_col" (· = .ofNat span.endColumn.toNat)]

/-- The field for a span in a record that need not have one. -/
def field (span : Span) : Json.DeclaredField := defaulted "span" .zero span span.IsForm

theorem isForm_toJson (span : Span) : span.IsForm span.toJson := by
  refine Json.isRecord_object (by simp) ?_
  simp

@[simp] theorem field_isForm (span : Span) : span.field.isForm = span.IsForm := rfl

@[simp] theorem field_name (span : Span) : span.field.name = "span" := rfl

theorem word32?_ofNat_toNat (number : UInt32) : (Json.ofNat number.toNat).word32? = some number := by
  have below : number.toNat < UInt32.size := number.toNat_lt
  simp [Json.word32?, Json.natBelow?, Json.ofNat, below]

theorem ofJson?_of_isForm {span : Span} {json : Json} (isForm : span.IsForm json) :
    ofJson? json = some span := by
  obtain ⟨fields, read, holds⟩ := Json.fields?_of_isRecord isForm (Nat.le_succ _)
  simp only [List.forall_mem_cons] at holds
  obtain ⟨startLine, startColumn, endLine, endColumn, -⟩ := holds
  have number {name : String} {number : UInt32}
      (holds : fields.Holds json.depth (required name (· = .ofNat number.toNat))) :
      fields.required? name Json.word32? = some number := by
    refine Fields.required?_of_holds holds ?_
    rintro json rfl -
    exact word32?_ofNat_toNat number
  have read : json.fields? ["start_line", "start_col", "end_line", "end_col"] = some fields := read
  simp [ofJson?, read, number startLine, number startColumn, number endLine, number endColumn]

theorem ofFields?_of_holds {span : Span} {fields : Fields} {bound : Nat}
    (holds : fields.Holds bound span.field) : ofFields? fields = some span :=
  Fields.orDefault?_of_holds holds fun _ isForm _ => ofJson?_of_isForm isForm

end Span

theorem Comparison.choice?_of_holds {comparison : Comparison} {fields : Fields} {bound : Nat}
    (holds : fields.Holds bound (required "op" (· = comparison.toJson))) :
    fields.required? "op" (Json.choice? choices) = some comparison := by
  refine Fields.required?_of_holds holds ?_
  rintro json rfl -
  cases comparison <;> rfl

namespace Json

@[simp] theorem isUsable_object (fields : List (String × Json)) :
    (object fields).isUsable = areFieldsUsable fields := by rw [isUsable]

@[simp] theorem isUsable_array (items : List Json) :
    (array items).isUsable = areUsable items := by rw [isUsable]

@[simp] theorem isUsable_string (text : String) : (string text).isUsable = true := by simp [isUsable]

@[simp] theorem isUsable_ofNat (number : Nat) : (ofNat number).isUsable = true := by
  simp [ofNat, isUsable]

@[simp] theorem areFieldsUsable_nil : areFieldsUsable [] = true := by rw [areFieldsUsable]

@[simp] theorem areFieldsUsable_cons (field : String × Json) (fields : List (String × Json)) :
    areFieldsUsable (field :: fields) = (field.2.isUsable && areFieldsUsable fields) := by
  rw [areFieldsUsable]

@[simp] theorem areUsable_nil : areUsable [] = true := by rw [areUsable]

@[simp] theorem areUsable_cons (item : Json) (items : List Json) :
    areUsable (item :: items) = (item.isUsable && areUsable items) := by rw [areUsable]

@[simp] theorem isUsable_ofOption {Value : Type} {encode : Value → Json} {value : Option Value} :
    (ofOption encode value).isUsable = true ↔ ∀ held ∈ value, (encode held).isUsable = true := by
  cases value <;> simp [ofOption, isUsable]

end Json

@[simp] theorem Span.isUsable_toJson (span : Span) : span.toJson.isUsable = true := by
  simp [toJson]

namespace Expr

mutual

/-- The JSON stands for the expression. -/
def IsForm : Expr → Json → Prop
  | .literal value => IsTagged "kind" "literal" [required "value" (IsText value)]
  | .null => IsTagged "kind" "null" []
  | .variable name => IsTagged "kind" "var" [required "name" (IsText name)]
  | .call receiver receiverType method arguments span =>
      IsTagged "kind" "call" [defaulted "receiver" none receiver (optionIsForm receiver),
        defaulted "receiver_type" none receiverType (IsOption IsText receiverType),
        required "method" (IsText method),
        defaulted "args" [] arguments (IsArray (areForms arguments)), span.field]
  | .construct className arguments span =>
      IsTagged "kind" "new" [required "class" (IsText className),
        defaulted "args" [] arguments (IsArray (areForms arguments)), span.field]
  | .concat operands span =>
      IsTagged "kind" "concat" [required "operands" (IsArray (areForms operands)), span.field]
  | .not operand => IsTagged "kind" "not" [required "operand" operand.IsForm]
  | .and left right =>
      IsTagged "kind" "and" [required "lhs" left.IsForm, required "rhs" right.IsForm]
  | .or left right =>
      IsTagged "kind" "or" [required "lhs" left.IsForm, required "rhs" right.IsForm]
  | .compare comparison left right =>
      IsTagged "kind" "compare" [required "op" (· = comparison.toJson),
        required "lhs" left.IsForm, required "rhs" right.IsForm]
  | .cast typeName operand =>
      IsTagged "kind" "cast" [required "type" (IsText typeName),
        required "operand" operand.IsForm]

/-- The JSON stands for an expression that may be absent. -/
def optionIsForm : Option Expr → Json → Prop
  | none => (· = .null)
  | some expr => expr.IsForm

/-- The items stand for the expressions, in order. -/
def areForms : List Expr → List Json → Prop
  | [], [] => True
  | expr :: rest, item :: items => expr.IsForm item ∧ areForms rest items
  | _, _ => False

end

/-- A form of an expression is read by its kind from the fields that it holds, all less deep. -/
theorem ofJsonWithin?_of_isTagged {kind : String} {declared : List Json.DeclaredField} {json : Json}
    {bound : Nat} (isTagged : json.IsTagged "kind" kind declared)
    (apart : "kind" ∉ declared.map Json.DeclaredField.name) (within : json.depth ≤ bound) :
    ∃ below record fields,
      ofJsonWithin? bound json = ofRecord? (ofJsonWithin? below) kind record ∧
      record.isBare = true ∧
      record.fields? (declared.map Json.DeclaredField.name) = some fields ∧
      ∀ field ∈ declared, fields.Holds below field := by
  obtain ⟨below, record, fields, rfl, tagged, isBare, read, holds⟩ :=
    Json.fields?_of_isTagged isTagged apart within
  refine ⟨below, record, fields, ?_, isBare, read, holds⟩
  rw [ofJsonWithin?, tagged]
  rfl

theorem ne_null_of_isForm {expr : Expr} {json : Json} (isForm : expr.IsForm json) :
    json ≠ .null := by
  rintro rfl
  cases expr <;> exact isForm

mutual

/-- Every form of an expression that nests within the bound is read as the expression. -/
theorem ofJsonWithin?_of_isForm : ∀ (expr : Expr) {json : Json} {bound : Nat}, expr.IsForm json →
    json.depth ≤ bound → ofJsonWithin? bound json = some expr
  | .literal value, json, bound, isForm, within => by
      obtain ⟨below, record, fields, same, -, read, holds⟩ :=
        ofJsonWithin?_of_isTagged isForm (by simp) within
      simp only [List.forall_mem_cons] at holds
      obtain ⟨atValue, -⟩ := holds
      have isValue := Fields.text_of_holds atValue
      have read : record.fields? ["value"] = some fields := read
      rw [same]
      simp [ofRecord?, read, isValue]
  | .null, json, bound, isForm, within => by
      obtain ⟨below, record, fields, same, isBare, -⟩ :=
        ofJsonWithin?_of_isTagged isForm (by simp) within
      rw [same]
      simp [ofRecord?, isBare]
  | .variable name, json, bound, isForm, within => by
      obtain ⟨below, record, fields, same, -, read, holds⟩ :=
        ofJsonWithin?_of_isTagged isForm (by simp) within
      simp only [List.forall_mem_cons] at holds
      obtain ⟨atName, -⟩ := holds
      have isName := Fields.text_of_holds atName
      have read : record.fields? ["name"] = some fields := read
      rw [same]
      simp [ofRecord?, read, isName]
  | .call receiver receiverType method arguments span, json, bound, isForm, within => by
      obtain ⟨below, record, fields, same, -, read, holds⟩ :=
        ofJsonWithin?_of_isTagged isForm (by simp) within
      simp only [List.forall_mem_cons] at holds
      obtain ⟨atReceiver, atType, atMethod, atArguments, atSpan, -⟩ := holds
      have isReceiver := Fields.optional?_of_holds atReceiver fun json =>
        nullable?_of_optionIsForm receiver
      have isType := Fields.optionalText_of_holds atType
      have isMethod := Fields.text_of_holds atMethod
      have areArguments := Fields.orDefault?_of_holds atArguments fun json isArray within =>
        Json.list?_of_isArray isArray within fun items => mapM_of_areForms arguments
      have isSpan := Span.ofFields?_of_holds atSpan
      have read : record.fields? ["receiver", "receiver_type", "method", "args", "span"] =
          some fields := read
      rw [same]
      simp [ofRecord?, read, isReceiver, isType, isMethod, areArguments, isSpan]
  | .construct className arguments span, json, bound, isForm, within => by
      obtain ⟨below, record, fields, same, -, read, holds⟩ :=
        ofJsonWithin?_of_isTagged isForm (by simp) within
      simp only [List.forall_mem_cons] at holds
      obtain ⟨atClass, atArguments, atSpan, -⟩ := holds
      have isClass := Fields.text_of_holds atClass
      have areArguments := Fields.orDefault?_of_holds atArguments fun json isArray within =>
        Json.list?_of_isArray isArray within fun items => mapM_of_areForms arguments
      have isSpan := Span.ofFields?_of_holds atSpan
      have read : record.fields? ["class", "args", "span"] = some fields := read
      rw [same]
      simp [ofRecord?, read, isClass, areArguments, isSpan]
  | .concat operands span, json, bound, isForm, within => by
      obtain ⟨below, record, fields, same, -, read, holds⟩ :=
        ofJsonWithin?_of_isTagged isForm (by simp) within
      simp only [List.forall_mem_cons] at holds
      obtain ⟨atOperands, atSpan, -⟩ := holds
      have areOperands := Fields.required?_of_holds atOperands fun json isArray within =>
        Json.list?_of_isArray isArray within fun items => mapM_of_areForms operands
      have isSpan := Span.ofFields?_of_holds atSpan
      have read : record.fields? ["operands", "span"] = some fields := read
      rw [same]
      simp [ofRecord?, read, areOperands, isSpan]
  | .not operand, json, bound, isForm, within => by
      obtain ⟨below, record, fields, same, -, read, holds⟩ :=
        ofJsonWithin?_of_isTagged isForm (by simp) within
      simp only [List.forall_mem_cons] at holds
      obtain ⟨atOperand, -⟩ := holds
      have isOperand := Fields.required?_of_holds atOperand fun json => ofJsonWithin?_of_isForm operand
      have read : record.fields? ["operand"] = some fields := read
      rw [same]
      simp [ofRecord?, read, isOperand]
  | .and left right, json, bound, isForm, within => by
      obtain ⟨below, record, fields, same, -, read, holds⟩ :=
        ofJsonWithin?_of_isTagged isForm (by simp) within
      simp only [List.forall_mem_cons] at holds
      obtain ⟨atLeft, atRight, -⟩ := holds
      have isLeft := Fields.required?_of_holds atLeft fun json => ofJsonWithin?_of_isForm left
      have isRight := Fields.required?_of_holds atRight fun json => ofJsonWithin?_of_isForm right
      have read : record.fields? ["lhs", "rhs"] = some fields := read
      rw [same]
      simp [ofRecord?, read, isLeft, isRight]
  | .or left right, json, bound, isForm, within => by
      obtain ⟨below, record, fields, same, -, read, holds⟩ :=
        ofJsonWithin?_of_isTagged isForm (by simp) within
      simp only [List.forall_mem_cons] at holds
      obtain ⟨atLeft, atRight, -⟩ := holds
      have isLeft := Fields.required?_of_holds atLeft fun json => ofJsonWithin?_of_isForm left
      have isRight := Fields.required?_of_holds atRight fun json => ofJsonWithin?_of_isForm right
      have read : record.fields? ["lhs", "rhs"] = some fields := read
      rw [same]
      simp [ofRecord?, read, isLeft, isRight]
  | .compare comparison left right, json, bound, isForm, within => by
      obtain ⟨below, record, fields, same, -, read, holds⟩ :=
        ofJsonWithin?_of_isTagged isForm (by simp) within
      simp only [List.forall_mem_cons] at holds
      obtain ⟨atComparison, atLeft, atRight, -⟩ := holds
      have isComparison := Comparison.choice?_of_holds atComparison
      have isLeft := Fields.required?_of_holds atLeft fun json => ofJsonWithin?_of_isForm left
      have isRight := Fields.required?_of_holds atRight fun json => ofJsonWithin?_of_isForm right
      have read : record.fields? ["op", "lhs", "rhs"] = some fields := read
      rw [same]
      simp [ofRecord?, read, isComparison, isLeft, isRight]
  | .cast typeName operand, json, bound, isForm, within => by
      obtain ⟨below, record, fields, same, -, read, holds⟩ :=
        ofJsonWithin?_of_isTagged isForm (by simp) within
      simp only [List.forall_mem_cons] at holds
      obtain ⟨atType, atOperand, -⟩ := holds
      have isType := Fields.text_of_holds atType
      have isOperand := Fields.required?_of_holds atOperand fun json => ofJsonWithin?_of_isForm operand
      have read : record.fields? ["type", "operand"] = some fields := read
      rw [same]
      simp [ofRecord?, read, isType, isOperand]

theorem nullable?_of_optionIsForm : ∀ (expr : Option Expr) {json : Json} {bound : Nat},
    optionIsForm expr json → json.depth ≤ bound →
    json.nullable? (ofJsonWithin? bound) = some expr
  | none, json, bound, isForm, _ => by
      obtain rfl : json = .null := isForm
      rfl
  | some expr, json, bound, isForm, within =>
      Json.nullable?_of_eq_some (ne_null_of_isForm isForm)
        (ofJsonWithin?_of_isForm expr isForm within)

theorem mapM_of_areForms : ∀ (exprs : List Expr) {items : List Json} {bound : Nat},
    areForms exprs items → Json.depthOfItems items ≤ bound →
    items.mapM (ofJsonWithin? bound) = some exprs
  | [], [], _, _, _ => rfl
  | expr :: rest, item :: items, bound, ⟨first, later⟩, within => by
      obtain ⟨depth, depths⟩ := Nat.max_le.1 within
      rw [List.mapM_cons, ofJsonWithin?_of_isForm expr first depth,
        mapM_of_areForms rest later depths]
      rfl

end

/-- Every form of an expression is read as the expression. -/
theorem ofJson?_of_isForm {expr : Expr} {json : Json} (isForm : expr.IsForm json) :
    ofJson? json = some expr :=
  ofJsonWithin?_of_isForm expr isForm (Nat.le_refl _)

mutual

/-- What an expression is written as is a form of it. -/
theorem isForm_toJson : ∀ expr : Expr, expr.IsForm expr.toJson
  | .literal value => by
      refine Json.isRecord_object (by simp) ?_
      simp
  | .null => by
      refine Json.isRecord_object (by simp) ?_
      simp
  | .variable name => by
      refine Json.isRecord_object (by simp) ?_
      simp
  | .call receiver receiverType method arguments span => by
      refine Json.isRecord_object (by simp) ?_
      simp [optionIsForm_optionToJson receiver, areForms_allToJson arguments,
        Json.isOption_ofOption, Span.isForm_toJson]
  | .construct className arguments span => by
      refine Json.isRecord_object (by simp) ?_
      simp [areForms_allToJson arguments, Span.isForm_toJson]
  | .concat operands span => by
      refine Json.isRecord_object (by simp) ?_
      simp [areForms_allToJson operands, Span.isForm_toJson]
  | .not operand => by
      refine Json.isRecord_object (by simp) ?_
      simp [isForm_toJson operand]
  | .and left right => by
      refine Json.isRecord_object (by simp) ?_
      simp [isForm_toJson left, isForm_toJson right]
  | .or left right => by
      refine Json.isRecord_object (by simp) ?_
      simp [isForm_toJson left, isForm_toJson right]
  | .compare comparison left right => by
      refine Json.isRecord_object (by simp) ?_
      simp [isForm_toJson left, isForm_toJson right]
  | .cast typeName operand => by
      refine Json.isRecord_object (by simp) ?_
      simp [isForm_toJson operand]

theorem optionIsForm_optionToJson : ∀ expr : Option Expr, optionIsForm expr (optionToJson expr)
  | none => rfl
  | some expr => isForm_toJson expr

theorem areForms_allToJson : ∀ exprs : List Expr, areForms exprs (allToJson exprs)
  | [] => trivial
  | expr :: rest => ⟨isForm_toJson expr, areForms_allToJson rest⟩

end

theorem nullable?_of_isOption {expr : Option Expr} {json : Json}
    (isForm : IsOption IsForm expr json) : json.nullable? ofJson? = some expr := by
  cases expr with
  | none =>
      obtain rfl : json = .null := isForm
      rfl
  | some expr =>
      exact Json.nullable?_of_eq_some (ne_null_of_isForm isForm) (ofJson?_of_isForm isForm)

/-! Nothing that is written for an expression is unusable. -/

mutual

theorem isUsable_toJson : ∀ expr : Expr, expr.toJson.isUsable = true
  | .literal _ | .null | .variable _ => by simp [toJson]
  | .call receiver receiverType method arguments span => by
      simp [toJson, isUsable_optionToJson receiver, areUsable_allToJson arguments]
  | .construct _ arguments _ => by simp [toJson, areUsable_allToJson arguments]
  | .concat operands _ => by simp [toJson, areUsable_allToJson operands]
  | .not operand => by simp [toJson, isUsable_toJson operand]
  | .and left right => by simp [toJson, isUsable_toJson left, isUsable_toJson right]
  | .or left right => by simp [toJson, isUsable_toJson left, isUsable_toJson right]
  | .compare comparison left right => by
      cases comparison <;>
        simp [toJson, Comparison.toJson, isUsable_toJson left, isUsable_toJson right]
  | .cast _ operand => by simp [toJson, isUsable_toJson operand]

theorem isUsable_optionToJson : ∀ expr : Option Expr, (optionToJson expr).isUsable = true
  | none => rfl
  | some expr => isUsable_toJson expr

theorem areUsable_allToJson : ∀ exprs : List Expr, Json.areUsable (allToJson exprs) = true
  | [] => rfl
  | expr :: rest => by simp [allToJson, isUsable_toJson expr, areUsable_allToJson rest]

end

end Expr

namespace Stmt

mutual

/-- The JSON stands for the statement. -/
def IsForm : Stmt → Json → Prop
  | .declare name typeName initial span =>
      IsTagged "kind" "local" [required "name" (IsText name),
        defaulted "type" none typeName (IsOption IsText typeName),
        defaulted "init" none initial (IsOption Expr.IsForm initial), span.field]
  | .assign target value span =>
      IsTagged "kind" "assign" [required "target" (IsText target), required "value" value.IsForm,
        span.field]
  | .evaluate expr span => IsTagged "kind" "expr" [required "expr" expr.IsForm, span.field]
  | .branch test accepted rejected span =>
      IsTagged "kind" "if" [required "cond" test.IsForm,
        defaulted "then_branch" [] accepted (IsArray (areForms accepted)),
        defaulted "else_branch" none rejected (optionIsForm rejected), span.field]
  | .loop test body span =>
      IsTagged "kind" "while" [required "cond" test.IsForm,
        defaulted "body" [] body (IsArray (areForms body)), span.field]
  | .block body =>
      IsTagged "kind" "block" [defaulted "stmts" [] body (IsArray (areForms body))]
  | .attempt body handlers final =>
      IsTagged "kind" "try" [defaulted "body" [] body (IsArray (areForms body)),
        defaulted "handlers" [] handlers (IsArray (handlersAreForms handlers)),
        defaulted "finally" none final (optionIsForm final)]
  | .return value span =>
      IsTagged "kind" "return" [defaulted "value" none value (IsOption Expr.IsForm value),
        span.field]

/-- The items stand for the statements, in order. -/
def areForms : List Stmt → List Json → Prop
  | [], [] => True
  | stmt :: rest, item :: items => stmt.IsForm item ∧ areForms rest items
  | _, _ => False

/-- The JSON stands for statements that may be absent. -/
def optionIsForm : Option (List Stmt) → Json → Prop
  | none => (· = .null)
  | some stmts => IsArray (areForms stmts)

/-- The items stand for the handlers, in order. -/
def handlersAreForms : List Handler → List Json → Prop
  | [], [] => True
  | ⟨parameter, exceptionType, body⟩ :: rest, item :: items =>
      item.IsRecord [defaulted "param" none parameter (IsOption IsText parameter),
        defaulted "exception_type" none exceptionType (IsOption IsText exceptionType),
        defaulted "body" [] body (IsArray (areForms body))] ∧ handlersAreForms rest items
  | _, _ => False

end

/-- A form of a statement is read by its kind from the fields that it holds, all less deep. -/
theorem ofJsonWithin?_of_isTagged {kind : String} {declared : List Json.DeclaredField} {json : Json}
    {bound : Nat} (isTagged : json.IsTagged "kind" kind declared)
    (apart : "kind" ∉ declared.map Json.DeclaredField.name) (within : json.depth ≤ bound) :
    ∃ below record fields,
      ofJsonWithin? bound json = ofRecord? (ofJsonWithin? below) kind record ∧
      record.fields? (declared.map Json.DeclaredField.name) = some fields ∧
      ∀ field ∈ declared, fields.Holds below field := by
  obtain ⟨below, record, fields, rfl, tagged, -, read, holds⟩ :=
    Json.fields?_of_isTagged isTagged apart within
  refine ⟨below, record, fields, ?_, read, holds⟩
  rw [ofJsonWithin?, tagged]
  rfl

mutual

/-- Every form of a statement that nests within the bound is read as the statement. -/
theorem ofJsonWithin?_of_isForm : ∀ (stmt : Stmt) {json : Json} {bound : Nat}, stmt.IsForm json →
    json.depth ≤ bound → ofJsonWithin? bound json = some stmt
  | .declare name typeName initial span, json, bound, isForm, within => by
      obtain ⟨below, record, fields, same, read, holds⟩ :=
        ofJsonWithin?_of_isTagged isForm (by simp) within
      simp only [List.forall_mem_cons] at holds
      obtain ⟨atName, atType, atInitial, atSpan, -⟩ := holds
      have isName := Fields.text_of_holds atName
      have isType := Fields.optionalText_of_holds atType
      have isInitial := Fields.optional?_of_holds atInitial fun json isForm _ =>
        Expr.nullable?_of_isOption isForm
      have isSpan := Span.ofFields?_of_holds atSpan
      have read : record.fields? ["name", "type", "init", "span"] = some fields := read
      rw [same]
      simp [ofRecord?, read, isName, isType, isInitial, isSpan]
  | .assign target value span, json, bound, isForm, within => by
      obtain ⟨below, record, fields, same, read, holds⟩ :=
        ofJsonWithin?_of_isTagged isForm (by simp) within
      simp only [List.forall_mem_cons] at holds
      obtain ⟨atTarget, atValue, atSpan, -⟩ := holds
      have isTarget := Fields.text_of_holds atTarget
      have isValue := Fields.required?_of_holds atValue fun json isForm _ => Expr.ofJson?_of_isForm isForm
      have isSpan := Span.ofFields?_of_holds atSpan
      have read : record.fields? ["target", "value", "span"] = some fields := read
      rw [same]
      simp [ofRecord?, read, isTarget, isValue, isSpan]
  | .evaluate expr span, json, bound, isForm, within => by
      obtain ⟨below, record, fields, same, read, holds⟩ :=
        ofJsonWithin?_of_isTagged isForm (by simp) within
      simp only [List.forall_mem_cons] at holds
      obtain ⟨atExpr, atSpan, -⟩ := holds
      have isExpr := Fields.required?_of_holds atExpr fun json isForm _ => Expr.ofJson?_of_isForm isForm
      have isSpan := Span.ofFields?_of_holds atSpan
      have read : record.fields? ["expr", "span"] = some fields := read
      rw [same]
      simp [ofRecord?, read, isExpr, isSpan]
  | .branch test accepted rejected span, json, bound, isForm, within => by
      obtain ⟨below, record, fields, same, read, holds⟩ :=
        ofJsonWithin?_of_isTagged isForm (by simp) within
      simp only [List.forall_mem_cons] at holds
      obtain ⟨atTest, atAccepted, atRejected, atSpan, -⟩ := holds
      have isTest := Fields.required?_of_holds atTest fun json isForm _ => Expr.ofJson?_of_isForm isForm
      have areAccepted := Fields.orDefault?_of_holds atAccepted fun json isArray within =>
        Json.list?_of_isArray isArray within fun items => mapM_of_areForms accepted
      have areRejected := Fields.optional?_of_holds atRejected fun json =>
        nullable?_of_optionIsForm rejected
      have isSpan := Span.ofFields?_of_holds atSpan
      have read : record.fields? ["cond", "then_branch", "else_branch", "span"] =
          some fields := read
      rw [same]
      simp [ofRecord?, read, isTest, areAccepted, areRejected, isSpan]
  | .loop test body span, json, bound, isForm, within => by
      obtain ⟨below, record, fields, same, read, holds⟩ :=
        ofJsonWithin?_of_isTagged isForm (by simp) within
      simp only [List.forall_mem_cons] at holds
      obtain ⟨atTest, atBody, atSpan, -⟩ := holds
      have isTest := Fields.required?_of_holds atTest fun json isForm _ => Expr.ofJson?_of_isForm isForm
      have isBody := Fields.orDefault?_of_holds atBody fun json isArray within =>
        Json.list?_of_isArray isArray within fun items => mapM_of_areForms body
      have isSpan := Span.ofFields?_of_holds atSpan
      have read : record.fields? ["cond", "body", "span"] = some fields := read
      rw [same]
      simp [ofRecord?, read, isTest, isBody, isSpan]
  | .block body, json, bound, isForm, within => by
      obtain ⟨below, record, fields, same, read, holds⟩ :=
        ofJsonWithin?_of_isTagged isForm (by simp) within
      simp only [List.forall_mem_cons] at holds
      obtain ⟨atBody, -⟩ := holds
      have isBody := Fields.orDefault?_of_holds atBody fun json isArray within =>
        Json.list?_of_isArray isArray within fun items => mapM_of_areForms body
      have read : record.fields? ["stmts"] = some fields := read
      rw [same]
      simp [ofRecord?, read, isBody]
  | .attempt body handlers final, json, bound, isForm, within => by
      obtain ⟨below, record, fields, same, read, holds⟩ :=
        ofJsonWithin?_of_isTagged isForm (by simp) within
      simp only [List.forall_mem_cons] at holds
      obtain ⟨atBody, atHandlers, atFinal, -⟩ := holds
      have isBody := Fields.orDefault?_of_holds atBody fun json isArray within =>
        Json.list?_of_isArray isArray within fun items => mapM_of_areForms body
      have areHandlers := Fields.orDefault?_of_holds atHandlers fun json isArray within =>
        Json.list?_of_isArray isArray within fun items => mapM_of_handlersAreForms handlers
      have isFinal := Fields.optional?_of_holds atFinal fun json =>
        nullable?_of_optionIsForm final
      have read : record.fields? ["body", "handlers", "finally"] = some fields := read
      rw [same]
      simp [ofRecord?, read, isBody, areHandlers, isFinal]
  | .return value span, json, bound, isForm, within => by
      obtain ⟨below, record, fields, same, read, holds⟩ :=
        ofJsonWithin?_of_isTagged isForm (by simp) within
      simp only [List.forall_mem_cons] at holds
      obtain ⟨atValue, atSpan, -⟩ := holds
      have isValue := Fields.optional?_of_holds atValue fun json isForm _ =>
        Expr.nullable?_of_isOption isForm
      have isSpan := Span.ofFields?_of_holds atSpan
      have read : record.fields? ["value", "span"] = some fields := read
      rw [same]
      simp [ofRecord?, read, isValue, isSpan]

theorem mapM_of_areForms : ∀ (stmts : List Stmt) {items : List Json} {bound : Nat},
    areForms stmts items → Json.depthOfItems items ≤ bound →
    items.mapM (ofJsonWithin? bound) = some stmts
  | [], [], _, _, _ => rfl
  | stmt :: rest, item :: items, bound, ⟨first, later⟩, within => by
      obtain ⟨depth, depths⟩ := Nat.max_le.1 within
      rw [List.mapM_cons, ofJsonWithin?_of_isForm stmt first depth,
        mapM_of_areForms rest later depths]
      rfl

theorem nullable?_of_optionIsForm : ∀ (stmts : Option (List Stmt)) {json : Json} {bound : Nat},
    optionIsForm stmts json → json.depth ≤ bound →
    json.nullable? (Json.list? (ofJsonWithin? bound)) = some stmts
  | none, json, bound, isForm, _ => by
      obtain rfl : json = .null := isForm
      rfl
  | some stmts, json, bound, isArray, within => by
      obtain ⟨items, rfl, areItems⟩ := Json.isArray_iff.1 isArray
      exact Json.nullable?_of_eq_some nofun
        (Json.list?_of_isArray isArray within fun items => mapM_of_areForms stmts)

theorem mapM_of_handlersAreForms : ∀ (handlers : List Handler) {items : List Json} {bound : Nat},
    handlersAreForms handlers items → Json.depthOfItems items ≤ bound →
    items.mapM (handlerOfJson? (ofJsonWithin? bound)) = some handlers
  | [], [], _, _, _ => rfl
  | ⟨parameter, exceptionType, body⟩ :: rest, item :: items, bound, ⟨first, later⟩, within => by
      obtain ⟨depth, depths⟩ := Nat.max_le.1 within
      obtain ⟨fields, read, holds⟩ := Json.fields?_of_isRecord first (Nat.le_succ_of_le depth)
      simp only [List.forall_mem_cons] at holds
      obtain ⟨atParameter, atType, atBody, -⟩ := holds
      have isParameter := Fields.optionalText_of_holds atParameter
      have isType := Fields.optionalText_of_holds atType
      have isBody := Fields.orDefault?_of_holds atBody fun json isArray within =>
        Json.list?_of_isArray isArray within fun items => mapM_of_areForms body
      have read : item.fields? ["param", "exception_type", "body"] = some fields := read
      have isHandler : handlerOfJson? (ofJsonWithin? bound) item =
          some ⟨parameter, exceptionType, body⟩ := by
        simp [handlerOfJson?, read, isParameter, isType, isBody]
      rw [List.mapM_cons, isHandler, mapM_of_handlersAreForms rest later depths]
      rfl

end

theorem isOption_initial (expr : Option Expr) :
    IsOption Expr.IsForm expr (.ofOption Expr.toJson expr) :=
  Json.isOption_ofOption fun expr _ => expr.isForm_toJson

mutual

/-- What a statement is written as is a form of it. -/
theorem isForm_toJson : ∀ stmt : Stmt, stmt.IsForm stmt.toJson
  | .declare name typeName initial span => by
      refine Json.isRecord_object (by simp) ?_
      simp [Json.isOption_ofOption, isOption_initial, Span.isForm_toJson]
  | .assign target value span => by
      refine Json.isRecord_object (by simp) ?_
      simp [value.isForm_toJson, Span.isForm_toJson]
  | .evaluate expr span => by
      refine Json.isRecord_object (by simp) ?_
      simp [expr.isForm_toJson, Span.isForm_toJson]
  | .branch test accepted rejected span => by
      refine Json.isRecord_object (by simp) ?_
      simp [test.isForm_toJson, areForms_allToJson accepted, optionIsForm_optionToJson rejected,
        Span.isForm_toJson]
  | .loop test body span => by
      refine Json.isRecord_object (by simp) ?_
      simp [test.isForm_toJson, areForms_allToJson body, Span.isForm_toJson]
  | .block body => by
      refine Json.isRecord_object (by simp) ?_
      simp [areForms_allToJson body]
  | .attempt body handlers final => by
      refine Json.isRecord_object (by simp) ?_
      simp [areForms_allToJson body, handlersAreForms_handlersToJson handlers,
        optionIsForm_optionToJson final]
  | .return value span => by
      refine Json.isRecord_object (by simp) ?_
      simp [isOption_initial, Span.isForm_toJson]

theorem areForms_allToJson : ∀ stmts : List Stmt, areForms stmts (allToJson stmts)
  | [] => trivial
  | stmt :: rest => ⟨isForm_toJson stmt, areForms_allToJson rest⟩

theorem optionIsForm_optionToJson : ∀ stmts : Option (List Stmt),
    optionIsForm stmts (optionToJson stmts)
  | none => rfl
  | some stmts => areForms_allToJson stmts

theorem handlersAreForms_handlersToJson : ∀ handlers : List Handler,
    handlersAreForms handlers (handlersToJson handlers)
  | [] => trivial
  | ⟨parameter, exceptionType, body⟩ :: rest => by
      refine ⟨Json.isRecord_object (by simp) ?_, handlersAreForms_handlersToJson rest⟩
      simp [Json.isOption_ofOption, areForms_allToJson body]

end

mutual

theorem isUsable_toJson : ∀ stmt : Stmt, stmt.toJson.isUsable = true
  | .declare _ _ _ _ => by simp [toJson, Expr.isUsable_toJson]
  | .assign _ _ _ => by simp [toJson, Expr.isUsable_toJson]
  | .evaluate _ _ => by simp [toJson, Expr.isUsable_toJson]
  | .branch _ accepted rejected _ => by
      simp [toJson, Expr.isUsable_toJson, areUsable_allToJson accepted,
        isUsable_optionToJson rejected]
  | .loop _ body _ => by simp [toJson, Expr.isUsable_toJson, areUsable_allToJson body]
  | .block body => by simp [toJson, areUsable_allToJson body]
  | .attempt body handlers final => by
      simp [toJson, areUsable_allToJson body, areUsable_handlersToJson handlers,
        isUsable_optionToJson final]
  | .return _ _ => by simp [toJson, Expr.isUsable_toJson]

theorem areUsable_allToJson : ∀ stmts : List Stmt, Json.areUsable (allToJson stmts) = true
  | [] => rfl
  | stmt :: rest => by simp [allToJson, isUsable_toJson stmt, areUsable_allToJson rest]

theorem isUsable_optionToJson : ∀ stmts : Option (List Stmt),
    (optionToJson stmts).isUsable = true
  | none => rfl
  | some stmts => by simp [optionToJson, areUsable_allToJson stmts]

theorem areUsable_handlersToJson : ∀ handlers : List Handler,
    Json.areUsable (handlersToJson handlers) = true
  | [] => rfl
  | ⟨parameter, exceptionType, body⟩ :: rest => by
      simp [handlersToJson, areUsable_allToJson body, areUsable_handlersToJson rest]

end

/-- The JSON stands for the statement, and no part of it is unusable, not even one that is passed
over. -/
def IsWritten (stmt : Stmt) (json : Json) : Prop := stmt.IsForm json ∧ json.isUsable = true

theorem ofJson?_of_isWritten {stmt : Stmt} {json : Json} (isWritten : stmt.IsWritten json) :
    ofJson? json = some stmt := by
  rw [ofJson?, if_pos isWritten.2]
  exact ofJsonWithin?_of_isForm stmt isWritten.1 (Nat.le_refl _)

theorem allToJson_eq_map (stmts : List Stmt) : allToJson stmts = stmts.map toJson := by
  induction stmts with
  | nil => rfl
  | cons stmt stmts inductionHypothesis => rw [allToJson, inductionHypothesis, List.map_cons]

end Stmt

namespace StringMap

/-- An entry behind all others is added at the end. -/
theorem setEntry_of_lt {Value : Type} {name : String} {value : Value}
    {entries : List (String × Value)} (behind : ∀ entry ∈ entries, entry.1 < name) :
    setEntry name value entries = entries ++ [(name, value)] := by
  induction entries with
  | nil => rfl
  | cons entry entries inductionHypothesis =>
      obtain ⟨first, later⟩ := List.forall_mem_cons.1 behind
      rw [setEntry, if_neg (String.lt_asymm first), if_pos first, inductionHypothesis later]
      rfl

/-- Entries in increasing order make the map that holds them. -/
theorem ofList_entries {Value : Type} (map : StringMap Value) : ofList map.entries = map := by
  -- The entries that were added stand before those that are left.
  have added (before : StringMap Value) (entries : List (String × Value))
      (ordered : (before.entries ++ entries).Pairwise fun first second => first.1 < second.1) :
      (entries.foldl (fun map entry => map.insert entry.1 entry.2) before).entries =
        before.entries ++ entries := by
    induction entries generalizing before with
    | nil => exact (List.append_nil _).symm
    | cons entry entries inductionHypothesis =>
        have inserted : (before.insert entry.1 entry.2).entries = before.entries ++ [entry] :=
          setEntry_of_lt fun other member =>
            (List.pairwise_append.1 ordered).2.2 other member entry List.mem_cons_self
        rw [List.append_cons, ← inserted] at ordered
        rw [List.foldl_cons, inductionHypothesis _ ordered, inserted, ← List.append_cons]
  exact ext (added empty map.entries map.ordered)

theorem ofJson?_toJson (map : StringMap String) : ofJson? (map.toJson .string) = some map := by
  have mapped (entries : List (String × String)) :
      (entries.map fun entry => (entry.1, Json.string entry.2)).mapM
        (fun field => field.2.string?.map fun value => (field.1, value)) = some entries := by
    induction entries with
    | nil => rfl
    | cons entry entries inductionHypothesis =>
        rw [List.map_cons, List.mapM_cons, inductionHypothesis]
        rfl
  rw [toJson, ofJson?, mapped]
  exact congrArg some (ofList_entries map)

theorem constants_of_holds {map : StringMap String} {fields : Fields} {bound : Nat}
    (holds : fields.Holds bound (defaulted "constants" .empty map map.IsForm)) :
    fields.orDefault? "constants" .empty ofJson? = some map := by
  refine Fields.orDefault?_of_holds holds ?_
  rintro json rfl -
  exact ofJson?_toJson map

end StringMap

theorem annotations_of_holds {annotations : List String} {fields : Fields} {bound : Nat}
    (holds : fields.Holds bound
      (defaulted "annotations" [] annotations (IsList IsText annotations))) :
    fields.orDefault? "annotations" [] (Json.list? Json.string?) = some annotations := by
  refine Fields.orDefault?_of_holds holds fun json isList _ =>
    Json.list?_of_isList isList ?_
  rintro annotation - item rfl
  rfl

namespace Parameter

/-- The JSON stands for the parameter. -/
def IsForm (parameter : Parameter) : Json → Prop :=
  IsRecord [required "name" (IsText parameter.name), required "type" (IsText parameter.typeName),
    defaulted "annotations" [] parameter.annotations (IsList IsText parameter.annotations)]

theorem isForm_toJson (parameter : Parameter) : parameter.IsForm parameter.toJson := by
  refine Json.isRecord_object (by simp) ?_
  simp [Json.isList_ofStrings]

theorem ofJson?_of_isForm {parameter : Parameter} {json : Json} (isForm : parameter.IsForm json) :
    ofJson? json = some parameter := by
  obtain ⟨fields, read, holds⟩ := Json.fields?_of_isRecord isForm (Nat.le_succ _)
  simp only [List.forall_mem_cons] at holds
  obtain ⟨atName, atType, atAnnotations, -⟩ := holds
  have isName := Fields.text_of_holds atName
  have isType := Fields.text_of_holds atType
  have areAnnotations := annotations_of_holds atAnnotations
  have read : json.fields? ["name", "type", "annotations"] = some fields := read
  simp [ofJson?, read, isName, isType, areAnnotations]

end Parameter

namespace Procedure

/-- The JSON stands for the procedure. -/
def IsForm (procedure : Procedure) : Json → Prop :=
  IsRecord [required "name" (IsText procedure.name),
    defaulted "annotations" [] procedure.annotations (IsList IsText procedure.annotations),
    defaulted "params" [] procedure.parameters (IsList Parameter.IsForm procedure.parameters),
    defaulted "return_type" none procedure.returnType (IsOption IsText procedure.returnType),
    defaulted "constants" .empty procedure.constants procedure.constants.IsForm,
    defaulted "body" [] procedure.body (IsList Stmt.IsWritten procedure.body), procedure.span.field]

theorem isForm_toJson (procedure : Procedure) : procedure.IsForm procedure.toJson := by
  refine Json.isRecord_object (by simp) ?_
  have body : (Json.array (Stmt.allToJson procedure.body)).IsList Stmt.IsWritten procedure.body := by
    rw [Stmt.allToJson_eq_map]
    exact Json.isList_map fun stmt _ => ⟨stmt.isForm_toJson, stmt.isUsable_toJson⟩
  have parameters : (Json.array (procedure.parameters.map Parameter.toJson)).IsList Parameter.IsForm
      procedure.parameters := Json.isList_map fun parameter _ => parameter.isForm_toJson
  simp [Json.isList_ofStrings, Json.isOption_ofOption, Span.isForm_toJson, body, parameters,
    StringMap.IsForm]

theorem ofJson?_of_isForm {procedure : Procedure} {json : Json} (isForm : procedure.IsForm json) :
    ofJson? json = some procedure := by
  obtain ⟨fields, read, holds⟩ := Json.fields?_of_isRecord isForm (Nat.le_succ _)
  simp only [List.forall_mem_cons] at holds
  obtain ⟨atName, atAnnotations, atParameters, atType, atConstants, atBody, atSpan, -⟩ := holds
  have isName := Fields.text_of_holds atName
  have areAnnotations := annotations_of_holds atAnnotations
  have areParameters := Fields.orDefault?_of_holds atParameters fun json isList _ =>
    Json.list?_of_isList isList fun parameter _ item => Parameter.ofJson?_of_isForm
  have isType := Fields.optionalText_of_holds atType
  have areConstants := StringMap.constants_of_holds atConstants
  have isBody := Fields.orDefault?_of_holds atBody fun json isList _ =>
    Json.list?_of_isList isList fun stmt _ item => Stmt.ofJson?_of_isWritten
  have isSpan := Span.ofFields?_of_holds atSpan
  have read : json.fields? ["name", "annotations", "params", "return_type", "constants", "body",
    "span"] = some fields := read
  simp [ofJson?, read, isName, areAnnotations, areParameters, isType, areConstants, isBody, isSpan]

end Procedure

namespace CompilationUnit

/-- The JSON stands for the unit. -/
def IsForm (compilationUnit : CompilationUnit) : Json → Prop :=
  IsRecord [required "name" (IsText compilationUnit.name),
    defaulted "constants" .empty compilationUnit.constants compilationUnit.constants.IsForm,
    defaulted "procedures" [] compilationUnit.procedures
      (IsList Procedure.IsForm compilationUnit.procedures)]

theorem isForm_toJson (compilationUnit : CompilationUnit) :
    compilationUnit.IsForm compilationUnit.toJson := by
  refine Json.isRecord_object (by simp) ?_
  have procedures : (Json.array (compilationUnit.procedures.map Procedure.toJson)).IsList
      Procedure.IsForm compilationUnit.procedures :=
    Json.isList_map fun procedure _ => procedure.isForm_toJson
  simp [procedures, StringMap.IsForm]

theorem ofJson?_of_isForm {compilationUnit : CompilationUnit} {json : Json}
    (isForm : compilationUnit.IsForm json) : ofJson? json = some compilationUnit := by
  obtain ⟨fields, read, holds⟩ := Json.fields?_of_isRecord isForm (Nat.le_succ _)
  simp only [List.forall_mem_cons] at holds
  obtain ⟨atName, atConstants, atProcedures, -⟩ := holds
  have isName := Fields.text_of_holds atName
  have areConstants := StringMap.constants_of_holds atConstants
  have areProcedures := Fields.orDefault?_of_holds atProcedures fun json isList _ =>
    Json.list?_of_isList isList fun procedure _ item => Procedure.ofJson?_of_isForm
  have read : json.fields? ["name", "constants", "procedures"] = some fields := read
  simp [ofJson?, read, isName, areConstants, areProcedures]

/-- A unit is written in one of its forms, and read from each of them, whatever fields with their
defaults it leaves out, in all procedures, statements, handlers and expressions. -/
theorem ofJson?_forms (compilationUnit : CompilationUnit) :
    ofJson? compilationUnit.toJson = some compilationUnit ∧
    compilationUnit.IsForm compilationUnit.toJson ∧
    ∀ json, compilationUnit.IsForm json → ofJson? json = some compilationUnit :=
  ⟨ofJson?_of_isForm compilationUnit.isForm_toJson, compilationUnit.isForm_toJson,
    fun _ isForm => ofJson?_of_isForm isForm⟩

end CompilationUnit

/-! A unit as front ends write it, with few fields and these in another order. -/

namespace FrontEnd

def view : Expr := .construct "ModelAndView" [.variable "url"] .zero

def procedure : Procedure :=
  ⟨"bad1", ["GetMapping"], [⟨"url", "String", []⟩], none, .empty, [.return (some view) .zero], .zero⟩

def compilationUnit : CompilationUnit :=
  ⟨"UrlForwardTest", .ofList [("BASE_PATH", "/pages")], [procedure]⟩

def viewJson : Json :=
  .object [("kind", .string "new"), ("class", .string "ModelAndView"),
    ("args", .array [.object [("kind", .string "var"), ("name", .string "url")]])]

def procedureJson : Json :=
  .object [("params", .array [.object [("type", .string "String"), ("name", .string "url")]]),
    ("name", .string "bad1"), ("annotations", .ofStrings ["GetMapping"]),
    ("body", .array [.object [("kind", .string "return"), ("value", viewJson)]])]

def unitJson : Json :=
  .object [("name", .string "UrlForwardTest"),
    ("constants", .object [("BASE_PATH", .string "/pages")]), ("procedures", .array [procedureJson])]

theorem isForm_viewJson : view.IsForm viewJson := by
  simp [view, viewJson, Expr.IsForm, Expr.areForms, Json.IsTagged, Json.IsRecord,
    Json.DeclaredField.isHeldBy_iff, required, defaulted, Span.field]

theorem isForm_procedureJson : procedure.IsForm procedureJson := by
  have annotations := Json.isList_ofStrings ["GetMapping"]
  have usable : viewJson.isUsable = true := by simp [viewJson]
  simp only [Json.IsList] at annotations
  simp [procedure, procedureJson, Procedure.IsForm, Parameter.IsForm, Stmt.IsWritten, Stmt.IsForm,
    Json.IsTagged, Json.IsRecord, Json.IsList, IsOption, Json.DeclaredField.isHeldBy_iff, required,
    defaulted, Span.field, annotations, isForm_viewJson, usable]

/-- The fields that the front end leaves out have their defaults. -/
theorem ofJson?_unitJson :
    compilationUnit.IsForm unitJson ∧ CompilationUnit.ofJson? unitJson = some compilationUnit := by
  have isForm : compilationUnit.IsForm unitJson := by
    simp [compilationUnit, unitJson, CompilationUnit.IsForm, Json.IsRecord, Json.IsList,
      Json.DeclaredField.isHeldBy_iff, required, defaulted, isForm_procedureJson]
    rfl
  exact ⟨isForm, (CompilationUnit.ofJson?_forms compilationUnit).2.2 unitJson isForm⟩

end FrontEnd

end ForwardTaint
