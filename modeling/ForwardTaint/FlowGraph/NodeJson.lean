import ForwardTaint.FlowGraph.Node
import ForwardTaint.Program.Json

/-!
The JSON form of call roles, nodes and edges.
-/

namespace ForwardTaint

namespace SanitizerKind

/-- The written names of the kinds. -/
def choices : List (String × SanitizerKind) :=
  [("decode", .decode), ("normalize", .normalize), ("case_fold", .caseFold)]

def toJson : SanitizerKind → Json
  | .decode => .string "decode"
  | .normalize => .string "normalize"
  | .caseFold => .string "case_fold"

end SanitizerKind

namespace CallRole

def toJson : CallRole → Json
  | .source => .object [("role", .string "source")]
  | .sink arguments =>
      .object [("role", .string "sink"), ("args", .array (arguments.map Json.ofNat))]
  | .sanitizer kind => .object [("role", .string "sanitizer"), ("kind", kind.toJson)]
  | .neutral => .object [("role", .string "neutral")]

def ofJson? (json : Json) : Option CallRole := do
  let (role, record) ← json.tagged? "role"
  match role with
  | "source" => if record.isBare then some .source else none
  | "sink" => (record.single? "args" (Json.list? Json.count?)).map .sink
  | "sanitizer" => (record.single? "kind" (Json.choice? SanitizerKind.choices)).map .sanitizer
  | "neutral" => if record.isBare then some .neutral else none
  | _ => none

end CallRole

namespace NodeKind

def toJson (kind : NodeKind) : Json :=
  let parts : List (String × Json) := match kind with
    | .sinkCall arguments => [("args", Json.array (arguments.map Json.ofNat))]
    | .sanitizerCall sanitizer => [("sanitizer", sanitizer.toJson)]
    | .guard id outcome => [("guard", .ofNat id), ("branch", .boolean outcome)]
    | _ => []
  .object (("kind", .string kind.label) :: parts)

def ofJson? (json : Json) : Option NodeKind := do
  let (kind, record) ← json.tagged? "kind"
  let bare (value : NodeKind) := if record.isBare then some value else none
  match kind with
  | "SOURCE_CALL" => bare .sourceCall
  | "SINK_CALL" => (record.single? "args" (Json.list? Json.count?)).map .sinkCall
  | "SANITIZER_CALL" =>
      (record.single? "sanitizer" (Json.choice? SanitizerKind.choices)).map .sanitizerCall
  | "LITERAL" => bare .literal
  | "CONCAT" => bare .concat
  | "VARIABLE_REF" => bare .variableRef
  | "GUARD" => do
      let fields ← record.fields? ["guard", "branch"]
      return .guard (← fields.required? "guard" Json.count?)
        (← fields.required? "branch" Json.boolean?)
  | "CALL" => bare .call
  | "PHI" => bare .phi
  | _ => none

end NodeKind

namespace FlowNode

def toJson (node : FlowNode) : Json :=
  .object [("kind", node.kind.toJson), ("text", .string node.text), ("span", node.span.toJson),
    ("var", .ofOption .string node.variableName)]

def ofJson? (json : Json) : Option FlowNode := do
  let fields ← json.fields? ["kind", "text", "span", "var"]
  return ⟨← fields.required? "kind" NodeKind.ofJson?, ← fields.required? "text" Json.string?,
    ← fields.required? "span" Span.ofJson?, ← fields.placed? "var" Json.string?⟩

end FlowNode

namespace EdgeKind

def toJson : EdgeKind → Json
  | .assign => .object [("kind", .string "assign")]
  | .argument index => .object [("kind", .string "argument"), ("index", .ofNat index)]
  | .receiver => .object [("kind", .string "receiver")]
  | .concatOperand index => .object [("kind", .string "concat_operand"), ("index", .ofNat index)]
  | .queryString => .object [("kind", .string "query_string")]
  | .refine => .object [("kind", .string "refine")]
  | .loopBack => .object [("kind", .string "loop_back")]
  | .join => .object [("kind", .string "join")]

def ofJson? (json : Json) : Option EdgeKind := do
  let (kind, record) ← json.tagged? "kind"
  let bare (value : EdgeKind) := if record.isBare then some value else none
  match kind with
  | "assign" => bare .assign
  | "argument" => (record.single? "index" Json.count?).map .argument
  | "receiver" => bare .receiver
  | "concat_operand" => (record.single? "index" Json.count?).map .concatOperand
  | "query_string" => bare .queryString
  | "refine" => bare .refine
  | "loop_back" => bare .loopBack
  | "join" => bare .join
  | _ => none

end EdgeKind

namespace GuardTag

def toJson (tag : GuardTag) : Json :=
  .object [("guard", .ofNat tag.guard), ("branch", .boolean tag.outcome)]

def ofJson? (json : Json) : Option GuardTag := do
  let fields ← json.fields? ["guard", "branch"]
  return ⟨← fields.required? "guard" Json.count?, ← fields.required? "branch" Json.boolean?⟩

end GuardTag

namespace EdgeLabel

def toJson (label : EdgeLabel) : Json :=
  .object [("kind", label.kind.toJson), ("tag", .ofOption GuardTag.toJson label.tag)]

def ofJson? (json : Json) : Option EdgeLabel := do
  let fields ← json.fields? ["kind", "tag"]
  return ⟨← fields.required? "kind" EdgeKind.ofJson?, ← fields.placed? "tag" GuardTag.ofJson?⟩

end EdgeLabel

end ForwardTaint
