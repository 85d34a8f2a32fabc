import ForwardTaint.Proofs.ConstructionEnds
import ForwardTaint.Proofs.RecordedChecks
import ForwardTaint.Propagation.Outcome

/-!
Which operands of a concatenation are taken for a query string: those behind an operand with a question
mark in its text, be it a literal or a name for which there is a constant.  A variable that has the name
of such a constant is taken for the constant.
-/

namespace ForwardTaint

namespace BuildContext

/-- The text that the expression is in the environment: that of a literal, or of a constant that no
definition hides. -/
inductive StandsFor (context : BuildContext) (environment : Environment) : Expr → String → Prop
  | literal (text : String) : StandsFor context environment (.literal text) text
  | constant {name text : String} (undefined : environment.definitions.get? name = none)
      (isConstant : context.constant? name = some text) :
      StandsFor context environment (.variable name) text

/-- The expression is a variable with a definition, which hides a constant of that text. -/
def Hides (context : BuildContext) (environment : Environment) (expr : Expr) (text : String) : Prop :=
  ∃ name definition, expr = .variable name ∧
    environment.definitions.get? name = some definition ∧ context.constant? name = some text

/-- A text is known of literals and of the names of constants, hidden or not. -/
theorem knownString_eq_some_iff {context : BuildContext} (environment : Environment) {expr : Expr}
    {text : String} :
    context.knownString? expr = some text ↔
      context.StandsFor environment expr text ∨ context.Hides environment expr text := by
  constructor
  · intro known
    match expr with
    | .literal value =>
        obtain rfl := Option.some.inj known
        exact .inl (.literal value)
    | .variable name =>
        cases defined : environment.definitions.get? name with
        | none => exact .inl (.constant defined known)
        | some definition => exact .inr ⟨name, definition, rfl, defined, known⟩
    | .null | .call .. | .construct .. | .concat .. | .not _ | .and .. | .or .. | .compare ..
    | .cast .. => exact nomatch known
  · rintro (standsFor | ⟨name, definition, rfl, -, isConstant⟩)
    · cases standsFor with
      | literal => rfl
      | constant undefined isConstant => exact isConstant
    · exact isConstant

/-- The operand opens a query: a question mark is in the text that is known of it. -/
def opensQuery (context : BuildContext) (operand : Expr) : Bool :=
  (context.knownString? operand).any (Text.contains "?")

theorem opensQuery_iff {context : BuildContext} (environment : Environment) {operand : Expr} :
    context.opensQuery operand = true ↔
      ∃ text, (context.StandsFor environment operand text ∨
        context.Hides environment operand text) ∧ '?' ∈ text.toList := by
  rw [opensQuery, Option.any_eq_true]
  refine exists_congr fun text => and_congr (knownString_eq_some_iff environment) ?_
  exact Text.contains_iff.trans (List.singleton_infix_iff _ _)

/-- The labels of operands, the first of which has the index. -/
def operandKinds (context : BuildContext) (index : Nat) (inQuery : Bool) : List Expr → List EdgeKind
  | [] => []
  | operand :: rest =>
      (if inQuery then .queryString else .concatOperand index) ::
        operandKinds context (index + 1) (inQuery || context.opensQuery operand) rest

theorem length_operandKinds (context : BuildContext) (index : Nat) (inQuery : Bool)
    (operands : List Expr) :
    (context.operandKinds index inQuery operands).length = operands.length := by
  induction operands generalizing index inQuery with
  | nil => rfl
  | cons operand rest inductionHypothesis =>
      rw [operandKinds, List.length_cons, List.length_cons, inductionHypothesis]

/-- An operand is in the query if one before it opens the query. -/
theorem getElem?_operandKinds {context : BuildContext} {start : Nat} {inQuery : Bool}
    {operands : List Expr} {index : Nat} {kind : EdgeKind}
    (isKind : (context.operandKinds start inQuery operands)[index]? = some kind) :
    kind = if inQuery || (operands.take index).any context.opensQuery then .queryString
      else .concatOperand (start + index) := by
  induction operands generalizing start inQuery index with
  | nil => exact nomatch isKind
  | cons operand rest inductionHypothesis =>
      cases index with
      | zero =>
          rw [operandKinds, List.getElem?_cons_zero, Option.some.injEq] at isKind
          rw [List.take_zero, List.any_nil, Bool.or_false, Nat.add_zero, isKind]
      | succ index =>
          rw [operandKinds, List.getElem?_cons_succ] at isKind
          rw [inductionHypothesis isKind, List.take_succ_cons, List.any_cons, Bool.or_assoc,
            Nat.add_assoc, Nat.add_comm 1 index]

end BuildContext

namespace Build

variable {context : BuildContext} {environment : Environment} {draft : Draft}

/-- The nodes of operands are those of expressions one after the other. -/
theorem lowerOperands_ok {operands : List Expr} {index : Nat} {inQuery : Bool}
    {draft after : Draft} {attached : List (Nat × EdgeKind)} :
    (lowerOperands context environment index inQuery operands).run draft =
        .ok (attached, after) ↔
      ∃ nodes, (lowerAll context environment operands).run draft = .ok (nodes, after) ∧
        nodes.length = operands.length ∧
        attached = nodes.zip (context.operandKinds index inQuery operands) := by
  induction operands generalizing index inQuery draft attached with
  | nil =>
      simp only [lowerOperands, lowerAll, pure_ok]
      constructor
      · rintro ⟨rfl, rfl⟩
        exact ⟨[], ⟨rfl, rfl⟩, rfl, rfl⟩
      · rintro ⟨nodes, ⟨rfl, rfl⟩, -, rfl⟩
        exact ⟨rfl, rfl⟩
  | cons operand rest inductionHypothesis =>
      simp only [lowerOperands, lowerAll, bind_ok, pure_ok]
      constructor
      · rintro ⟨node, first, isNode, later, second, areLater, rfl, rfl⟩
        obtain ⟨nodes, areNodes, lengths, rfl⟩ := inductionHypothesis.1 areLater
        exact ⟨node :: nodes, ⟨node, first, isNode, nodes, second, areNodes, rfl, rfl⟩,
          congrArg Nat.succ lengths, rfl⟩
      · rintro ⟨-, ⟨node, first, isNode, nodes, second, areNodes, rfl, rfl⟩, lengths, rfl⟩
        exact ⟨node, first, isNode, _, second,
          inductionHypothesis.2 ⟨nodes, areNodes, Nat.succ.inj lengths, rfl⟩, rfl, rfl⟩

/-- A concatenation is a node behind those of its operands, which are lowered one level deeper. -/
theorem lower_concat_ok {operands : List Expr} {span : Span} {node : Nat} {after : Draft} :
    (lower context environment (.concat operands span)).run draft = .ok (node, after) ↔
      draft.depth < maxNesting ∧ ∃ nodes between,
        (lowerAll context environment operands).run { draft with depth := draft.depth + 1 } =
          .ok (nodes, between) ∧
        nodes.length = operands.length ∧ between.nodes.size < maxNodes ∧
        node = between.nodes.size ∧
        after = { between.withNode ⟨.concat, (Expr.concat operands span).text, span, none⟩
            ((nodes.zip (context.operandKinds 0 false operands)).map fun source =>
              (source.1, .plain source.2)) with depth := draft.depth } := by
  rw [lower, nested_ok_of_givesBack ((lowerOperands_givesBack _ _ _).bind fun _ =>
    (addNode_givesBack _ _ _ _).bind fun _ => (addEdges_givesBack _ _).bind fun _ => .pure _)]
  refine and_congr_right fun _ => ?_
  constructor
  · rintro ⟨inside, lowered, rfl⟩
    obtain ⟨attached, between, areAttached, added⟩ := bind_ok.1 lowered
    obtain ⟨nodes, areNodes, lengths, rfl⟩ := lowerOperands_ok.1 areAttached
    obtain ⟨room, ends⟩ := addNode_edges_ok.1 added
    obtain ⟨rfl, rfl⟩ := pure_ok.1 ends
    exact ⟨nodes, between, areNodes, lengths, room, rfl, rfl⟩
  · rintro ⟨nodes, between, areNodes, lengths, room, rfl, rfl⟩
    refine ⟨_, bind_ok.2 ⟨nodes.zip (context.operandKinds 0 false operands), between, ?_, ?_⟩, rfl⟩
    · exact lowerOperands_ok.2 ⟨nodes, areNodes, lengths, rfl⟩
    · exact addNode_edges_ok.2 ⟨room, pure_ok.2 ⟨rfl, rfl⟩⟩

end Build

namespace BuildContext

/-- How operands are attached to a concatenation: each by its node in turn, as one of the query if an
operand before it is a text with a question mark or hides one, and by its index elsewhere. -/
structure Attaches (context : BuildContext) (environment : Environment) (operands : List Expr)
    (nodes : List Nat) (attached : List (Nat × EdgeLabel)) : Prop where
  sources : attached.map Prod.fst = nodes
  kind : ∀ (index source : Nat) (label : EdgeLabel), attached[index]? = some (source, label) →
    label = .plain .queryString ∨ label = .plain (.concatOperand index)
  inQuery : ∀ (index source : Nat) (label : EdgeLabel), attached[index]? = some (source, label) →
    (label = .plain .queryString ↔ ∃ earlier ∈ operands.take index, ∃ text,
      (context.StandsFor environment earlier text ∨ context.Hides environment earlier text) ∧
        '?' ∈ text.toList)

theorem attaches_operandKinds (context : BuildContext) (environment : Environment)
    {operands : List Expr} {nodes : List Nat} (lengths : nodes.length = operands.length) :
    context.Attaches environment operands nodes
      ((nodes.zip (context.operandKinds 0 false operands)).map fun source =>
        (source.1, .plain source.2)) := by
  have labelled {index source : Nat} {label : EdgeLabel}
      (isAttached : ((nodes.zip (context.operandKinds 0 false operands)).map fun source =>
        (source.1, EdgeLabel.plain source.2))[index]? = some (source, label)) :
      label = .plain (if (operands.take index).any context.opensQuery then .queryString
        else .concatOperand index) := by
    rw [List.getElem?_map, Option.map_eq_some_iff] at isAttached
    obtain ⟨⟨node, kind⟩, isZipped, same⟩ := isAttached
    obtain ⟨rfl, rfl⟩ := Prod.mk.inj same
    have isKind := (List.getElem?_zip_eq_some.1 isZipped).2
    rw [getElem?_operandKinds isKind, Bool.false_or, Nat.zero_add]
  constructor
  · rw [List.map_map]
    exact List.map_fst_zip (by rw [length_operandKinds, lengths])
  · intro index source label isAttached
    rw [labelled isAttached]
    split
    · exact .inl rfl
    · exact .inr rfl
  · intro index source label isAttached
    rw [labelled isAttached]
    simp only [← opensQuery_iff environment, ← List.any_eq_true]
    split
    · rename_i opens
      exact iff_of_true rfl opens
    · rename_i opens
      exact iff_of_false (by simp [EdgeLabel.plain]) opens

end BuildContext

namespace Build

variable {context : BuildContext} {environment : Environment} {draft : Draft}

/-- The node of a concatenation stands behind those of its operands, which are lowered one level
deeper, and the edges to it are those by which they are attached, however the draft grows. -/
theorem lower_concat_attaches {operands : List Expr} {span : Span} {node : Nat} {after : Draft}
    (lowered : (lower context environment (.concat operands span)).run draft =
      .ok (node, after)) :
    ∃ nodes between attached,
      (lowerAll context environment operands).run { draft with depth := draft.depth + 1 } =
        .ok (nodes, between) ∧
      nodes.length = operands.length ∧ node = between.nodes.size ∧
      after = { between.withNode ⟨.concat, (Expr.concat operands span).text, span, none⟩ attached
        with depth := draft.depth } ∧
      context.Attaches environment operands nodes attached ∧
      (draft.IsReachable → environment.HoldsIn draft → ∀ floor later, after.GrowsAbove floor later →
        ∀ edge : Edge, edge.target = node →
          (edge ∈ later.edges ↔ ∃ source ∈ attached, edge = ⟨source.1, node, source.2⟩)) := by
  obtain ⟨-, nodes, between, areNodes, lengths, -, rfl, rfl⟩ := lower_concat_ok.1 lowered
  refine ⟨nodes, between, _, areNodes, lengths, rfl, rfl,
    context.attaches_operandKinds environment lengths, ?_⟩
  intro reachable holds floor later grows edge isTarget
  -- Edges from before lead to nodes from before, and later ones only to nodes that are new or join.
  have deeper : draft.Grows { draft with depth := draft.depth + 1 } := Draft.Step.level.grows
  obtain ⟨grown, -⟩ := lowerAll_ensures operands (reachable.grow deeper) (holds.grow deeper) nodes
    between areNodes
  have wellFormed := ((reachable.grow deeper).grow grown).isWellFormed
  have present := Draft.getElem?_withNode_new between
    ⟨.concat, (Expr.concat operands span).text, span, none⟩
    ((nodes.zip (context.operandKinds 0 false operands)).map fun source =>
      (source.1, .plain source.2))
  have joinsNothing : NodeKind.concat ≠ .phi := nofun
  rw [grows.edge_iff_of_node (isTarget ▸ present) joinsNothing, Draft.mem_edges_withNode,
    or_iff_left]
  intro old
  have below := wellFormed.target_lt edge old
  omega

end Build

namespace TokenQuery

def context : BuildContext := ⟨DecodingLoop.catalog, .empty, Procedure.named "serve"⟩

def operands : List Expr := [.literal "/index.jsp?token=", .localCall "getParameter" []]

def draft : Draft where
  nodes := #[
    ⟨.literal, "/index.jsp?token=", .zero, none⟩, ⟨.sourceCall, "getParameter()", .zero, none⟩,
    ⟨.concat, "\"/index.jsp?token=\" + getParameter()", .zero, none⟩]
  edges := [⟨1, 2, .plain .queryString⟩, ⟨0, 2, .plain (.concatOperand 0)⟩]
  guards := #[]
  sources := [1]
  sinks := []
  declaredTypes := .empty
  undefinedReads := .empty
  depth := 0

/-- What stands behind the question mark of a literal is in the query. -/
theorem token_in_query :
    (Build.lower context .entry (.concat operands .zero)).run .empty = .ok (2, draft) ∧
    ∃ label, (⟨1, 2, label⟩ : Edge) ∈ draft.edges ∧ label = .plain .queryString := by
  have lowered : (Build.lower context .entry (.concat operands .zero)).run .empty =
      .ok (2, draft) := by cbv
  have areNodes : ∃ between, (Build.lowerAll context .entry operands).run
      { Draft.empty with depth := 1 } = .ok ([0, 1], between) := ⟨_, rfl⟩
  refine ⟨lowered, ?_⟩
  obtain ⟨nodes, between, attached, found, -, -, -, attaches, edges⟩ :=
    Build.lower_concat_attaches lowered
  obtain ⟨between', found'⟩ := areNodes
  obtain ⟨rfl, -⟩ := Prod.mk.inj (Except.ok.inj (found.symm.trans found'))
  obtain ⟨⟨source, label⟩, isAttached, rfl⟩ : ∃ last, attached[1]? = some last ∧ last.1 = 1 := by
    have second := congrArg (fun sources : List Nat => sources[1]?) attaches.sources
    rw [List.getElem?_map] at second
    exact Option.map_eq_some_iff.1 second
  refine ⟨label, ?_, (attaches.inQuery 1 1 label isAttached).2 ?_⟩
  · exact (edges .refl (Environment.holdsIn_entry _) 0 draft .refl ⟨1, 2, label⟩ rfl).2
      ⟨_, List.mem_of_getElem? isAttached, rfl⟩
  · exact ⟨.literal "/index.jsp?token=", List.mem_cons_self, _, .inl (.literal _), by decide⟩

end TokenQuery

namespace HiddenPage

def constants : StringMap String := StringMap.empty.insert "page" "/index.jsp?page="

def procedure : Procedure :=
  { Procedure.named "serve" with
    body := [
      .declare "page" none (some (.literal "/pages/")) .zero,
      .evaluate (.localCall "forward"
        [.concat [.variable "page", .localCall "getParameter" []] .zero]) .zero] }

def context : BuildContext := ⟨DecodingLoop.catalog, constants, procedure⟩

/-- The environment behind the declaration of the page. -/
def environment : Environment := Environment.entry.define "page" 1

/-- The draft behind the declaration of the page. -/
def draft : Draft where
  nodes := #[
    ⟨.literal, "/pages/", .zero, none⟩,
    ⟨.variableRef, "page = \"/pages/\"", .zero, some "page"⟩]
  edges := [⟨0, 1, .plain .assign⟩]
  guards := #[]
  sources := []
  sinks := []
  declaredTypes := .empty
  undefinedReads := .empty
  depth := 0

def graph : FlowGraph where
  procedureName := "serve"
  nodes := #[
    ⟨.literal, "/pages/", .zero, none⟩,
    ⟨.variableRef, "page = \"/pages/\"", .zero, some "page"⟩,
    ⟨.sourceCall, "getParameter()", .zero, none⟩,
    ⟨.concat, "page + getParameter()", .zero, none⟩,
    ⟨.sinkCall [0], "forward(page + getParameter())", .zero, none⟩]
  edges := [
    ⟨3, 4, .plain (.argument 0)⟩, ⟨2, 3, .plain .queryString⟩, ⟨1, 3, .plain (.concatOperand 0)⟩,
    ⟨0, 1, .plain .assign⟩]
  guards := #[]
  sources := [2]
  sinks := [4]

theorem variable_stands_for_nothing (text : String) :
    ¬context.StandsFor environment (.variable "page") text := by
  intro standsFor
  cases standsFor with
  | constant undefined isConstant => exact nomatch undefined

/-- The variable has no question mark, but a constant of its name has: what stands behind the variable
is taken for a query string, and the flow into the forward is lost. -/
theorem variable_opens_query :
    FlowGraph.build DecodingLoop.catalog constants procedure = .ok graph ∧
    (graph.propagate (.standard ⟨false⟩) ⟨50, 10, true⟩).findings = [] ∧
    ∃ after, (Build.lower context environment
        (.concat [.variable "page", .localCall "getParameter" []] .zero)).run draft =
          .ok (3, after) ∧
      ⟨2, 3, .plain .queryString⟩ ∈ after.edges ∧
      ¬∃ earlier ∈ [Expr.variable "page"], ∃ text,
        context.StandsFor environment earlier text ∧ '?' ∈ text.toList := by
  refine ⟨by cbv, by cbv, _, rfl, List.mem_cons_self, ?_⟩
  rintro ⟨earlier, isEarlier, text, standsFor, -⟩
  rw [List.mem_singleton.1 isEarlier] at standsFor
  exact variable_stands_for_nothing text standsFor

end HiddenPage

end ForwardTaint
