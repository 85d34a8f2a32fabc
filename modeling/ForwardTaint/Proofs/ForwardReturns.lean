import ForwardTaint.Proofs.QueryOperands

/-!
Which returned values of a request handler are taken for forwards: those that begin with a text known to
begin like a forward, where they are that text or a concatenation that has it for its first operand.  Casts
and concatenations inside are not looked into, and a variable is taken for the constant of its name.
-/

namespace ForwardTaint

namespace Expr

mutual

/-- The parts that the value of an expression is put together from, seen through casts. -/
def leaves : Expr → List Expr
  | .cast _ operand => operand.leaves
  | .concat operands _ => leavesOfAll operands
  | .literal value => [.literal value]
  | .null => [.null]
  | .variable name => [.variable name]
  | .call receiver receiverType method arguments span =>
      [.call receiver receiverType method arguments span]
  | .construct className arguments span => [.construct className arguments span]
  | .not operand => [.not operand]
  | .and left right => [.and left right]
  | .or left right => [.or left right]
  | .compare comparison left right => [.compare comparison left right]

/-- The parts of expressions one after the other. -/
def leavesOfAll : List Expr → List Expr
  | [] => []
  | expr :: rest => expr.leaves ++ leavesOfAll rest

end

/-- The expression itself, or the first operand of a concatenation. -/
def leading? : Expr → Option Expr
  | .concat operands _ => operands.head?
  | expr => some expr

/-- What leads an expression is the first of its parts, unless it is put together itself. -/
theorem head_leaves_of_leading {expr leaf : Expr} (leads : expr.leading? = some leaf)
    (single : leaf.leaves = [leaf]) : expr.leaves.head? = some leaf := by
  match expr with
  | .concat [] _ => exact nomatch leads
  | .concat (first :: rest) _ =>
      obtain rfl := Option.some.inj leads
      rw [leaves, leavesOfAll, single]
      rfl
  | .cast typeName operand =>
      obtain rfl := Option.some.inj leads
      rw [single]
      rfl
  | .literal _ | .null | .variable _ | .call .. | .construct .. | .not _ | .and .. | .or ..
  | .compare .. => exact leads

end Expr

namespace BuildContext

/-- A request handler returns a value whose first part is a text that begins like a forward. -/
def ReturnsForward (context : BuildContext) (environment : Environment) (value : Expr) : Prop :=
  context.catalog.isRequestHandler context.procedure = true ∧ ∃ leaf text,
    value.leaves.head? = some leaf ∧ context.StandsFor environment leaf text ∧
      context.catalog.isForwardPrefix text = true

/-- A request handler returns a value that is led by its first part, which is or hides a text that begins
like a forward. -/
def TakesForForward (context : BuildContext) (environment : Environment) (value : Expr) : Prop :=
  context.catalog.isRequestHandler context.procedure = true ∧ ∃ leaf text,
    value.leaves.head? = some leaf ∧ value.leading? = some leaf ∧
      (context.StandsFor environment leaf text ∨ context.Hides environment leaf text) ∧
      context.catalog.isForwardPrefix text = true

variable {context : BuildContext} {environment : Environment} {value : Expr}

/-- An expression of which a text is known is not put together from others. -/
theorem leaves_of_known {leaf : Expr} {text : String}
    (known : context.StandsFor environment leaf text ∨ context.Hides environment leaf text) :
    leaf.leaves = [leaf] := by
  rcases known with standsFor | ⟨name, definition, rfl, -⟩
  · cases standsFor with
    | literal => rw [Expr.leaves]
    | constant => rw [Expr.leaves]
  · rw [Expr.leaves]

theorem takesForForward_iff :
    (context.catalog.isRequestHandler context.procedure &&
        Build.isForwardReturn context value) = true ↔
      context.TakesForForward environment value := by
  have leading : Build.isForwardReturn context value =
      (value.leading?.bind context.knownString?).any context.catalog.isForwardPrefix := by
    unfold Build.isForwardReturn Expr.leading?
    rfl
  rw [Bool.and_eq_true, leading, Option.any_eq_true, TakesForForward]
  refine and_congr_right fun _ => ?_
  simp only [Option.bind_eq_some_iff, knownString_eq_some_iff environment]
  constructor
  · rintro ⟨text, ⟨leaf, leads, known⟩, isForward⟩
    exact ⟨leaf, text, Expr.head_leaves_of_leading leads (leaves_of_known known), leads, known,
      isForward⟩
  · rintro ⟨leaf, text, -, leads, known, isForward⟩
    exact ⟨text, ⟨leaf, leads, known⟩, isForward⟩

/-- A value that is led by its first part, which hides nothing, is taken for what it is. -/
theorem takesForForward_iff_returnsForward (ledByFirst : value.leading? = value.leaves.head?)
    (hidesNothing : ∀ leaf text, value.leaves.head? = some leaf →
      ¬context.Hides environment leaf text) :
    context.TakesForForward environment value ↔ context.ReturnsForward environment value := by
  refine and_congr_right fun _ => exists_congr fun leaf => exists_congr fun text => ?_
  rw [ledByFirst]
  constructor
  · rintro ⟨isFirst, -, known, isForward⟩
    exact ⟨isFirst, known.resolve_right (hidesNothing leaf text isFirst), isForward⟩
  · rintro ⟨isFirst, standsFor, isForward⟩
    exact ⟨isFirst, isFirst, .inl standsFor, isForward⟩

end BuildContext

namespace Build

variable {context : BuildContext} {environment : Environment} {draft : Draft}

theorem lowerReturn_ok {value : Expr} {span : Span} {result : Unit} {final : Draft} :
    (lowerReturn context value span environment).run draft = .ok (result, final) ↔
      ∃ node between, (lower context environment value).run draft = .ok (node, between) ∧
        (context.TakesForForward environment value ∧ between.nodes.size < maxNodes ∧
            final = between.withNode ⟨.sinkCall [0], "return " ++ value.text, span, none⟩
              [(node, .plain (.argument 0))] ∨
          ¬context.TakesForForward environment value ∧ final = between) := by
  rw [lowerReturn, bind_ok]
  refine exists_congr fun node => exists_congr fun between => and_congr_right fun _ => ?_
  rw [← BuildContext.takesForForward_iff]
  split
  · rename_i isForward
    rw [or_iff_left (fun taken => taken.1 isForward), and_iff_right isForward]
    simp only [bind_ok, addNode_ok, addEdge_ok]
    constructor
    · rintro ⟨sink, after, ⟨room, rfl, rfl⟩, rfl⟩
      exact ⟨room, rfl⟩
    · rintro ⟨room, rfl⟩
      exact ⟨_, _, ⟨room, rfl, rfl⟩, rfl⟩
  · rename_i notForward
    rw [or_iff_right (fun taken => notForward taken.1), and_iff_right notForward, pure_ok,
      and_iff_right rfl, eq_comm]

/-- A return statement adds the nodes of its value, one level deeper, and behind them a sink that the
value is handed to if the value is taken for a forward, and nothing else.  A value that is led by its
first part, which hides nothing, is taken for a forward exactly if it is one. -/
theorem addStmt_return_adds_sink (context : BuildContext) (environment : Environment)
    (value : Expr) (span : Span) (draft : Draft) :
    (∀ after final,
      (addStmt context (.return (some value) span) environment).run draft = .ok (after, final) ↔
        draft.depth < maxNesting ∧ after = { environment with reachable := false } ∧
        ∃ node between,
          (lower context environment value).run { draft with depth := draft.depth + 1 } =
            .ok (node, between) ∧
          (context.TakesForForward environment value ∧ between.nodes.size < maxNodes ∧
              final = { between.withNode ⟨.sinkCall [0], "return " ++ value.text, span, none⟩
                [(node, .plain (.argument 0))] with depth := draft.depth } ∨
            ¬context.TakesForForward environment value ∧
              final = { between with depth := draft.depth })) ∧
    (value.leading? = value.leaves.head? →
      (∀ leaf text, value.leaves.head? = some leaf → ¬context.Hides environment leaf text) →
      (context.TakesForForward environment value ↔ context.ReturnsForward environment value)) := by
  refine ⟨fun after final => ?_, BuildContext.takesForForward_iff_returnsForward⟩
  rw [addStmt, nested_ok_of_givesBack ((lowerReturn_givesBack _ _).bind fun _ => .pure _)]
  refine and_congr_right fun _ => ?_
  constructor
  · rintro ⟨inside, built, rfl⟩
    obtain ⟨returned, last, returns, ends⟩ := bind_ok.1 built
    obtain ⟨rfl, rfl⟩ := pure_ok.1 ends
    obtain ⟨node, between, lowered, added⟩ := lowerReturn_ok.1 returns
    refine ⟨rfl, node, between, lowered, ?_⟩
    rcases added with ⟨isForward, room, rfl⟩ | ⟨notForward, rfl⟩
    · exact .inl ⟨isForward, room, rfl⟩
    · exact .inr ⟨notForward, rfl⟩
  · rintro ⟨rfl, node, between, lowered, added⟩
    rcases added with ⟨isForward, room, rfl⟩ | ⟨notForward, rfl⟩
    · have returns : (lowerReturn context value span environment).run _ = .ok ((), _) :=
        lowerReturn_ok.2 ⟨node, between, lowered, .inl ⟨isForward, room, rfl⟩⟩
      exact ⟨_, bind_ok.2 ⟨(), _, returns, pure_ok.2 ⟨rfl, rfl⟩⟩, rfl⟩
    · have returns : (lowerReturn context value span environment).run _ = .ok ((), between) :=
        lowerReturn_ok.2 ⟨node, between, lowered, .inr ⟨notForward, rfl⟩⟩
      exact ⟨between, bind_ok.2 ⟨(), between, returns, pure_ok.2 ⟨rfl, rfl⟩⟩, rfl⟩

end Build

/-! A handler with a page of its own, which hides a constant, and a request parameter. -/

namespace HiddenHome

def constants : StringMap String := StringMap.empty.insert "home" "forward:/home/"

/-- A forward that is led by a concatenation. -/
def nested : Expr :=
  .concat [.concat [.literal "forward:", .variable "url"] .zero, .literal ".jsp"] .zero

/-- A page that is led by the variable. -/
def page : Expr := .concat [.variable "home", .variable "url"] .zero

def procedure : Procedure :=
  { Procedure.named "serve" with
    annotations := ["GetMapping"]
    body := [
      .declare "home" none (some (.literal "/home/")) .zero,
      .declare "url" none (some (.localCall "getParameter" [])) .zero,
      .branch (.localCall "waits" []) [.return (some nested) .zero] none .zero,
      .return (some page) .zero] }

def context : BuildContext := ⟨DecodingLoop.catalog, constants, procedure⟩

/-- The environment behind the declarations. -/
def environment : Environment := (Environment.entry.define "home" 1).define "url" 3

/-- The draft behind the declarations. -/
def draft : Draft where
  nodes := #[
    ⟨.literal, "/home/", .zero, none⟩, ⟨.variableRef, "home = \"/home/\"", .zero, some "home"⟩,
    ⟨.sourceCall, "getParameter()", .zero, none⟩,
    ⟨.variableRef, "url = getParameter()", .zero, some "url"⟩]
  edges := [⟨2, 3, .plain .assign⟩, ⟨0, 1, .plain .assign⟩]
  guards := #[]
  sources := [2]
  sinks := []
  declaredTypes := .empty
  undefinedReads := .empty
  depth := 0

def guard : GuardCondition := ⟨0, "waits()", .zero, [], [], [], none⟩

def graph : FlowGraph where
  procedureName := "serve"
  nodes := #[
    ⟨.literal, "/home/", .zero, none⟩, ⟨.variableRef, "home = \"/home/\"", .zero, some "home"⟩,
    ⟨.sourceCall, "getParameter()", .zero, none⟩,
    ⟨.variableRef, "url = getParameter()", .zero, some "url"⟩,
    ⟨.call, "waits()", .zero, none⟩, ⟨.literal, "forward:", .zero, none⟩,
    ⟨.concat, "\"forward:\" + url", .zero, none⟩, ⟨.literal, ".jsp", .zero, none⟩,
    ⟨.concat, "\"forward:\" + url + \".jsp\"", .zero, none⟩, ⟨.concat, "home + url", .zero, none⟩,
    ⟨.sinkCall [0], "return home + url", .zero, none⟩]
  edges := [
    ⟨9, 10, .plain (.argument 0)⟩, ⟨3, 9, .plain (.concatOperand 1)⟩,
    ⟨1, 9, .plain (.concatOperand 0)⟩, ⟨7, 8, .plain (.concatOperand 1)⟩,
    ⟨6, 8, .plain (.concatOperand 0)⟩, ⟨3, 6, .plain (.concatOperand 1)⟩,
    ⟨5, 6, .plain (.concatOperand 0)⟩, ⟨2, 3, .plain .assign⟩, ⟨0, 1, .plain .assign⟩]
  guards := #[guard]
  sources := [2]
  sinks := [10]

/-- A forward that is led by its text is handed to a sink. -/
theorem flat_forward_is_sink :
    ∃ (after : Environment) (node : Nat) (between final : Draft),
      (Build.addStmt context
        (.return (some (.concat [.literal "forward:", .variable "url"] .zero)) .zero)
        environment).run draft = .ok (after, final) ∧
      final = { between.withNode ⟨.sinkCall [0], "return \"forward:\" + url", .zero, none⟩
        [(node, .plain (.argument 0))] with depth := draft.depth } := by
  obtain ⟨⟨after, final⟩, built⟩ : ∃ output, (Build.addStmt context
      (.return (some (.concat [.literal "forward:", .variable "url"] .zero)) .zero)
      environment).run draft = .ok output := ⟨_, rfl⟩
  obtain ⟨adds, agrees⟩ := Build.addStmt_return_adds_sink context environment
    (.concat [.literal "forward:", .variable "url"] .zero) .zero draft
  have isForward : context.TakesForForward environment
      (.concat [.literal "forward:", .variable "url"] .zero) := by
    refine (agrees rfl ?_).2 ⟨by decide, .literal "forward:", _, rfl, .literal _, by decide⟩
    rintro leaf text isFirst ⟨name, definition, rfl, -⟩
    exact nomatch isFirst
  obtain ⟨-, -, node, between, -, taken | ⟨notTaken, -⟩⟩ := (adds after final).1 built
  · exact ⟨after, node, between, final, built, taken.2.2⟩
  · exact absurd isForward notTaken

/-- The kinds of the nodes in the draft behind a return. -/
def kindsBehind (value : Expr) : Option (List NodeKind) :=
  ((Build.addStmt context (.return (some value) .zero) environment).run draft).toOption.map
    fun output => output.2.nodes.toList.map FlowNode.kind

/-- The forward that is led by a concatenation is missed, and the page of the handler is taken for the
constant that it hides. -/
theorem nested_forward_is_missed :
    (FlowGraph.build DecodingLoop.catalog constants procedure).toOption = some graph ∧
    graph.sinks = [10] ∧
    context.ReturnsForward environment nested ∧
    kindsBehind nested = some [.literal, .variableRef, .sourceCall, .variableRef,
      .literal, .concat, .literal, .concat] ∧
    ¬context.ReturnsForward environment page ∧
    kindsBehind page = some [.literal, .variableRef, .sourceCall, .variableRef,
      .concat, .sinkCall [0]] := by
  have isForward : context.ReturnsForward environment nested :=
    ⟨by decide, .literal "forward:", _, rfl, .literal _, by decide⟩
  have noForward : ¬context.ReturnsForward environment page := by
    rintro ⟨-, leaf, text, isFirst, standsFor, -⟩
    obtain rfl := Option.some.inj isFirst
    cases standsFor with
    | constant undefined isConstant => exact nomatch undefined
  refine ⟨?_, ?_, isForward, ?_, noForward, ?_⟩
  · decide +kernel
  · decide
  · decide +kernel
  · decide +kernel

end HiddenHome

end ForwardTaint
