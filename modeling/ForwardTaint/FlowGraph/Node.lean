import ForwardTaint.Catalog.Role
import ForwardTaint.Program.Span

/-!
The nodes and edges of flow graphs.
-/

namespace ForwardTaint

/-- What a node stands for. -/
inductive NodeKind where
  | sourceCall
  | sinkCall (arguments : List Nat)
  | sanitizerCall (sanitizer : SanitizerKind)
  | literal
  | concat
  | variableRef
  | guard (guard : Nat) (outcome : Bool)
  | call
  | phi
  deriving DecidableEq

def NodeKind.label : NodeKind → String
  | .sourceCall => "SOURCE_CALL"
  | .sinkCall _ => "SINK_CALL"
  | .sanitizerCall _ => "SANITIZER_CALL"
  | .literal => "LITERAL"
  | .concat => "CONCAT"
  | .variableRef => "VARIABLE_REF"
  | .guard _ _ => "GUARD"
  | .call => "CALL"
  | .phi => "PHI"

/-- A node with the text it stands for and the variable it defines or refines. -/
structure FlowNode where
  kind : NodeKind
  text : String
  span : Span
  variableName : Option String
  deriving DecidableEq

namespace FlowNode

def isSource (node : FlowNode) : Bool := node.kind == .sourceCall

def isSink (node : FlowNode) : Bool :=
  match node.kind with
  | .sinkCall _ => true
  | _ => false

def label (node : FlowNode) : String :=
  node.kind.label ++ " \x60" ++ node.text ++ "\x60 @" ++ node.span.text

end FlowNode

/-- How the value at one node reaches another. -/
inductive EdgeKind where
  | assign
  | argument (index : Nat)
  | receiver
  | concatOperand (index : Nat)
  | queryString
  | refine
  | loopBack
  | join
  deriving DecidableEq

/-- The outcome of a test under which an edge is taken. -/
structure GuardTag where
  guard : Nat
  outcome : Bool
  deriving DecidableEq

/-- The label of an edge. -/
structure EdgeLabel where
  kind : EdgeKind
  tag : Option GuardTag
  deriving DecidableEq

namespace EdgeLabel

/-- A label without a tag. -/
def plain (kind : EdgeKind) : EdgeLabel := ⟨kind, none⟩

/-- The label of a refinement by one outcome of a test. -/
def refinement (guard : Nat) (outcome : Bool) : EdgeLabel := ⟨.refine, some ⟨guard, outcome⟩⟩

/-- Whether taint travels along the edge: only the query string of a path does not carry it. -/
def carriesTaint (label : EdgeLabel) : Bool := label.kind != .queryString

end EdgeLabel

end ForwardTaint
