import ForwardTaint.Json.Record
import ForwardTaint.Program.Procedure

/-!
The JSON form of programs.  Statements and expressions are records that name their kind; lists,
optional parts and spans may be left out where the record declares a default.
-/

namespace ForwardTaint

open Json (Fields)

namespace StringMap

/-- A map as an object. -/
def toJson {Value : Type} (encode : Value → Json) (map : StringMap Value) : Json :=
  .object (map.entries.map fun entry => (entry.1, encode entry.2))

/-- Reads an object of texts; of a repeated name the last value counts. -/
def ofJson? : Json → Option (StringMap String)
  | .object fields => do
      let entries ← fields.mapM fun field => field.2.string?.map fun value => (field.1, value)
      return ofList entries
  | _ => none

end StringMap

namespace Span

def toJson (span : Span) : Json :=
  .object [("start_line", .ofNat span.startLine.toNat),
    ("start_col", .ofNat span.startColumn.toNat), ("end_line", .ofNat span.endLine.toNat),
    ("end_col", .ofNat span.endColumn.toNat)]

def ofJson? (json : Json) : Option Span := do
  let fields ← json.fields? ["start_line", "start_col", "end_line", "end_col"]
  return ⟨← fields.required? "start_line" Json.word32?, ← fields.required? "start_col" Json.word32?,
    ← fields.required? "end_line" Json.word32?, ← fields.required? "end_col" Json.word32?⟩

/-- Reads the span of a record that need not have one. -/
def ofFields? (fields : Fields) : Option Span := fields.orDefault? "span" .zero ofJson?

end Span

namespace Comparison

/-- The written names of the comparisons. -/
def choices : List (String × Comparison) := [("eq", .equal), ("ne", .different)]

def toJson : Comparison → Json
  | .equal => .string "eq"
  | .different => .string "ne"

end Comparison

namespace Expr

mutual

def toJson : Expr → Json
  | .literal value => .object [("kind", .string "literal"), ("value", .string value)]
  | .null => .object [("kind", .string "null")]
  | .variable name => .object [("kind", .string "var"), ("name", .string name)]
  | .call receiver receiverType method arguments span =>
      .object [("kind", .string "call"), ("receiver", optionToJson receiver),
        ("receiver_type", .ofOption .string receiverType), ("method", .string method),
        ("args", .array (allToJson arguments)), ("span", span.toJson)]
  | .construct className arguments span =>
      .object [("kind", .string "new"), ("class", .string className),
        ("args", .array (allToJson arguments)), ("span", span.toJson)]
  | .concat operands span =>
      .object [("kind", .string "concat"), ("operands", .array (allToJson operands)),
        ("span", span.toJson)]
  | .not operand => .object [("kind", .string "not"), ("operand", operand.toJson)]
  | .and left right =>
      .object [("kind", .string "and"), ("lhs", left.toJson), ("rhs", right.toJson)]
  | .or left right =>
      .object [("kind", .string "or"), ("lhs", left.toJson), ("rhs", right.toJson)]
  | .compare comparison left right =>
      .object [("kind", .string "compare"), ("op", comparison.toJson), ("lhs", left.toJson),
        ("rhs", right.toJson)]
  | .cast typeName operand =>
      .object [("kind", .string "cast"), ("type", .string typeName), ("operand", operand.toJson)]

/-- An expression that may be absent. -/
def optionToJson : Option Expr → Json
  | none => .null
  | some expr => expr.toJson

/-- The JSON form of each expression. -/
def allToJson : List Expr → List Json
  | [] => []
  | expr :: rest => expr.toJson :: allToJson rest

end

/-- Reads an expression of a named kind, its parts with a given reader. -/
def ofRecord? (decode : Json → Option Expr) (kind : String) (record : Json) : Option Expr :=
  match kind with
  | "literal" => do
      let fields ← record.fields? ["value"]
      return .literal (← fields.required? "value" Json.string?)
  | "null" => if record.isBare then some .null else none
  | "var" => do
      let fields ← record.fields? ["name"]
      return .variable (← fields.required? "name" Json.string?)
  | "call" => do
      let fields ← record.fields? ["receiver", "receiver_type", "method", "args", "span"]
      return .call (← fields.optional? "receiver" decode)
        (← fields.optional? "receiver_type" Json.string?) (← fields.required? "method" Json.string?)
        (← fields.orDefault? "args" [] (Json.list? decode)) (← Span.ofFields? fields)
  | "new" => do
      let fields ← record.fields? ["class", "args", "span"]
      return .construct (← fields.required? "class" Json.string?)
        (← fields.orDefault? "args" [] (Json.list? decode)) (← Span.ofFields? fields)
  | "concat" => do
      let fields ← record.fields? ["operands", "span"]
      return .concat (← fields.required? "operands" (Json.list? decode)) (← Span.ofFields? fields)
  | "not" => do
      let fields ← record.fields? ["operand"]
      return .not (← fields.required? "operand" decode)
  | "and" => do
      let fields ← record.fields? ["lhs", "rhs"]
      return .and (← fields.required? "lhs" decode) (← fields.required? "rhs" decode)
  | "or" => do
      let fields ← record.fields? ["lhs", "rhs"]
      return .or (← fields.required? "lhs" decode) (← fields.required? "rhs" decode)
  | "compare" => do
      let fields ← record.fields? ["op", "lhs", "rhs"]
      return .compare (← fields.required? "op" (Json.choice? Comparison.choices))
        (← fields.required? "lhs" decode) (← fields.required? "rhs" decode)
  | "cast" => do
      let fields ← record.fields? ["type", "operand"]
      return .cast (← fields.required? "type" Json.string?) (← fields.required? "operand" decode)
  | _ => none

/-- Reads an expression that nests at most `bound` deep. -/
def ofJsonWithin? : Nat → Json → Option Expr
  | 0, _ => none
  | bound + 1, json => (json.tagged? "kind").bind fun tagged =>
      ofRecord? (ofJsonWithin? bound) tagged.1 tagged.2

def ofJson? (json : Json) : Option Expr := ofJsonWithin? json.depth json

end Expr

namespace Stmt

mutual

def toJson : Stmt → Json
  | .declare name typeName initial span =>
      .object [("kind", .string "local"), ("name", .string name),
        ("type", .ofOption .string typeName), ("init", .ofOption Expr.toJson initial),
        ("span", span.toJson)]
  | .assign target value span =>
      .object [("kind", .string "assign"), ("target", .string target), ("value", value.toJson),
        ("span", span.toJson)]
  | .evaluate expr span =>
      .object [("kind", .string "expr"), ("expr", expr.toJson), ("span", span.toJson)]
  | .branch test accepted rejected span =>
      .object [("kind", .string "if"), ("cond", test.toJson),
        ("then_branch", .array (allToJson accepted)), ("else_branch", optionToJson rejected),
        ("span", span.toJson)]
  | .loop test body span =>
      .object [("kind", .string "while"), ("cond", test.toJson), ("body", .array (allToJson body)),
        ("span", span.toJson)]
  | .block body => .object [("kind", .string "block"), ("stmts", .array (allToJson body))]
  | .attempt body handlers final =>
      .object [("kind", .string "try"), ("body", .array (allToJson body)),
        ("handlers", .array (handlersToJson handlers)), ("finally", optionToJson final)]
  | .return value span =>
      .object [("kind", .string "return"), ("value", .ofOption Expr.toJson value),
        ("span", span.toJson)]

/-- The JSON form of each statement. -/
def allToJson : List Stmt → List Json
  | [] => []
  | stmt :: rest => stmt.toJson :: allToJson rest

/-- Statements that may be absent. -/
def optionToJson : Option (List Stmt) → Json
  | none => .null
  | some stmts => .array (allToJson stmts)

/-- The JSON form of each handler. -/
def handlersToJson : List Handler → List Json
  | [] => []
  | ⟨parameter, exceptionType, body⟩ :: rest =>
      .object [("param", .ofOption .string parameter),
        ("exception_type", .ofOption .string exceptionType), ("body", .array (allToJson body))]
        :: handlersToJson rest

end

/-- Reads a handler, its statements with a given reader. -/
def handlerOfJson? (decode : Json → Option Stmt) (json : Json) : Option Handler := do
  let fields ← json.fields? ["param", "exception_type", "body"]
  return ⟨← fields.optional? "param" Json.string?, ← fields.optional? "exception_type" Json.string?,
    ← fields.orDefault? "body" [] (Json.list? decode)⟩

/-- Reads a statement of a named kind, its statements with a given reader. -/
def ofRecord? (decode : Json → Option Stmt) (kind : String) (record : Json) : Option Stmt :=
  match kind with
  | "local" => do
      let fields ← record.fields? ["name", "type", "init", "span"]
      return .declare (← fields.required? "name" Json.string?)
        (← fields.optional? "type" Json.string?) (← fields.optional? "init" Expr.ofJson?)
        (← Span.ofFields? fields)
  | "assign" => do
      let fields ← record.fields? ["target", "value", "span"]
      return .assign (← fields.required? "target" Json.string?)
        (← fields.required? "value" Expr.ofJson?) (← Span.ofFields? fields)
  | "expr" => do
      let fields ← record.fields? ["expr", "span"]
      return .evaluate (← fields.required? "expr" Expr.ofJson?) (← Span.ofFields? fields)
  | "if" => do
      let fields ← record.fields? ["cond", "then_branch", "else_branch", "span"]
      return .branch (← fields.required? "cond" Expr.ofJson?)
        (← fields.orDefault? "then_branch" [] (Json.list? decode))
        (← fields.optional? "else_branch" (Json.list? decode)) (← Span.ofFields? fields)
  | "while" => do
      let fields ← record.fields? ["cond", "body", "span"]
      return .loop (← fields.required? "cond" Expr.ofJson?)
        (← fields.orDefault? "body" [] (Json.list? decode)) (← Span.ofFields? fields)
  | "block" => do
      let fields ← record.fields? ["stmts"]
      return .block (← fields.orDefault? "stmts" [] (Json.list? decode))
  | "try" => do
      let fields ← record.fields? ["body", "handlers", "finally"]
      return .attempt (← fields.orDefault? "body" [] (Json.list? decode))
        (← fields.orDefault? "handlers" [] (Json.list? (handlerOfJson? decode)))
        (← fields.optional? "finally" (Json.list? decode))
  | "return" => do
      let fields ← record.fields? ["value", "span"]
      return .return (← fields.optional? "value" Expr.ofJson?) (← Span.ofFields? fields)
  | _ => none

/-- Reads a statement that nests at most `bound` deep. -/
def ofJsonWithin? : Nat → Json → Option Stmt
  | 0, _ => none
  | bound + 1, json => (json.tagged? "kind").bind fun tagged =>
      ofRecord? (ofJsonWithin? bound) tagged.1 tagged.2

/-- Reads a statement, no part of which may be unusable. -/
def ofJson? (json : Json) : Option Stmt :=
  if json.isUsable then ofJsonWithin? json.depth json else none

end Stmt

namespace Parameter

def toJson (parameter : Parameter) : Json :=
  .object [("name", .string parameter.name), ("type", .string parameter.typeName),
    ("annotations", .ofStrings parameter.annotations)]

def ofJson? (json : Json) : Option Parameter := do
  let fields ← json.fields? ["name", "type", "annotations"]
  return ⟨← fields.required? "name" Json.string?, ← fields.required? "type" Json.string?,
    ← fields.orDefault? "annotations" [] (Json.list? Json.string?)⟩

end Parameter

namespace Procedure

def toJson (procedure : Procedure) : Json :=
  .object [("name", .string procedure.name), ("annotations", .ofStrings procedure.annotations),
    ("params", .array (procedure.parameters.map Parameter.toJson)),
    ("return_type", .ofOption .string procedure.returnType),
    ("constants", procedure.constants.toJson .string),
    ("body", .array (Stmt.allToJson procedure.body)), ("span", procedure.span.toJson)]

def ofJson? (json : Json) : Option Procedure := do
  let fields ← json.fields?
    ["name", "annotations", "params", "return_type", "constants", "body", "span"]
  return ⟨← fields.required? "name" Json.string?,
    ← fields.orDefault? "annotations" [] (Json.list? Json.string?),
    ← fields.orDefault? "params" [] (Json.list? Parameter.ofJson?),
    ← fields.optional? "return_type" Json.string?,
    ← fields.orDefault? "constants" .empty StringMap.ofJson?,
    ← fields.orDefault? "body" [] (Json.list? Stmt.ofJson?), ← Span.ofFields? fields⟩

end Procedure

namespace CompilationUnit

def toJson (compilationUnit : CompilationUnit) : Json :=
  .object [("name", .string compilationUnit.name),
    ("constants", compilationUnit.constants.toJson .string),
    ("procedures", .array (compilationUnit.procedures.map Procedure.toJson))]

def ofJson? (json : Json) : Option CompilationUnit := do
  let fields ← json.fields? ["name", "constants", "procedures"]
  return ⟨← fields.required? "name" Json.string?,
    ← fields.orDefault? "constants" .empty StringMap.ofJson?,
    ← fields.orDefault? "procedures" [] (Json.list? Procedure.ofJson?)⟩

end CompilationUnit

end ForwardTaint
