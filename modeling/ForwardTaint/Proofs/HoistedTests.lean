import ForwardTaint.Proofs.ConstructionEnds
import ForwardTaint.Proofs.FlagBindings

/-!
Loops whose test is kept in a flag.  A test of string values is taken apart in the same way wherever
the variables that it reads mean the same, as long as it is followed to its end; and at the head of
a loop whose body ends by renewing the flag, the flag stands for the test.  So the loop on the flag
has the guard of the loop on the test, and refines the same variables.
-/

namespace ForwardTaint

/-- How deep negations, conjunctions and disjunctions stand in each other, with what they join. -/
def Expr.testDepth : Expr → Nat
  | .not operand => operand.testDepth + 1
  | .and left right | .or left right => max left.testDepth right.testDepth + 1
  | _ => 1

/-- What a test joins is among its parts. -/
theorem Expr.testDepth_le_levels : (expr : Expr) → expr.testDepth ≤ expr.levels
  | .not operand => by
      have within := operand.testDepth_le_levels
      rw [testDepth, levels]
      omega
  | .and left right | .or left right => by
      have withinLeft := left.testDepth_le_levels
      have withinRight := right.testDepth_le_levels
      rw [testDepth, levels]
      omega
  | .literal _ | .null | .variable _ => Nat.le_refl 1
  | .call _ _ _ _ _ | .construct _ _ _ | .concat _ _ | .compare _ _ _ | .cast _ _ =>
      Nat.le_add_left 1 _

/-- The variable that an expression is, is read by it. -/
theorem Expr.mem_reads_of_asVariable {name : String} : (expr : Expr) →
    expr.asVariable = some name → name ∈ expr.reads
  | .variable _, isVariable => by
      rw [← Option.some.inj isVariable]
      exact List.mem_singleton_self _
  | .cast _ operand, isVariable => mem_reads_of_asVariable operand isVariable

theorem Expr.mem_variableNames {name : String} {expr : Expr} :
    name ∈ expr.variableNames ↔ name ∈ expr.reads := Names.mem_distinct

namespace Scope

variable {first second : Scope}

/-- The names mean the same in both scopes, up to the flags among them. -/
structure AgreesOn (first second : Scope) (names : List String) : Prop where
  isDefined : ∀ name ∈ names, first.isDefined name = second.isDefined name
  constant? : ∀ name ∈ names, first.constant? name = second.constant? name

theorem AgreesOn.mono {names fewer : List String} (agrees : first.AgreesOn second names)
    (within : ∀ name ∈ fewer, name ∈ names) : first.AgreesOn second fewer :=
  ⟨fun name member => agrees.isDefined name (within name member),
    fun name member => agrees.constant? name (within name member)⟩

theorem AgreesOn.left {names more : List String} (agrees : first.AgreesOn second (names ++ more)) :
    first.AgreesOn second names := agrees.mono fun _ => List.mem_append_left _

theorem AgreesOn.right {names more : List String} (agrees : first.AgreesOn second (names ++ more)) :
    first.AgreesOn second more := agrees.mono fun _ => List.mem_append_right _

theorem AgreesOn.operand : (expr : Expr) → first.AgreesOn second expr.reads →
    first.operand expr = second.operand expr
  | .variable name, agrees => by
      have member : name ∈ (Expr.variable name).reads := List.mem_singleton_self _
      rw [Scope.operand, Scope.operand, agrees.isDefined name member, agrees.constant? name member]
  | .cast _ inner, agrees => AgreesOn.operand inner agrees
  | .literal _, _ | .null, _ | .call _ _ _ _ _, _ | .construct _ _ _, _ | .concat _ _, _
  | .not _, _ | .and _ _, _ | .or _ _, _ | .compare _ _ _, _ => rfl

theorem AgreesOn.knownString? : (expr : Expr) → first.AgreesOn second expr.reads →
    first.knownString? expr = second.knownString? expr
  | .variable name, agrees => agrees.constant? name (List.mem_singleton_self _)
  | .cast _ _, _ | .literal _, _ | .null, _ | .call _ _ _ _ _, _ | .construct _ _ _, _
  | .concat _ _, _ | .not _, _ | .and _ _, _ | .or _ _, _ | .compare _ _ _, _ => rfl

theorem AgreesOn.subject? {expr : Expr} (agrees : first.AgreesOn second expr.reads) :
    first.subject? expr = second.subject? expr := by
  unfold Scope.subject?
  cases isVariable : expr.asVariable with
  | none => rfl
  | some name =>
      have member := Expr.mem_reads_of_asVariable expr isVariable
      have same : first.isVariable name = second.isVariable name := by
        rw [Scope.isVariable, Scope.isVariable, agrees.isDefined name member,
          agrees.constant? name member]
      rw [Option.filter_some, Option.filter_some, same]

/-- A call makes the same check where its variables mean the same. -/
theorem AgreesOn.checkAtom? {expr : Expr} (agrees : first.AgreesOn second expr.reads) :
    first.checkAtom? expr = second.checkAtom? expr := by
  unfold Scope.checkAtom?
  split
  · rename_i receiver written method argument span
    have onArgument : first.AgreesOn second argument.reads :=
      agrees.right.mono fun _ => List.mem_append_left _
    rw [agrees.left.subject?, onArgument.subject?, agrees.left.knownString?, agrees.left.operand,
      onArgument.operand]
  · rfl

theorem AgreesOn.definedReads {expr : Expr} (agrees : first.AgreesOn second expr.reads) :
    expr.variableNames.filter first.isDefined = expr.variableNames.filter second.isDefined :=
  List.filter_congr fun name member => agrees.isDefined name (Expr.mem_variableNames.1 member)

/-- A test is taken apart in the same way where its variables mean the same, whatever flags there
are and however much further it might be followed. -/
theorem AgreesOn.definiteAtoms : (expr : Expr) → (fuel fuel' : Nat) → (outcome : Bool) →
    expr.isPredicate = true → expr.testDepth ≤ fuel → expr.testDepth ≤ fuel' →
    first.AgreesOn second expr.reads →
    first.definiteAtoms fuel expr outcome = second.definiteAtoms fuel' expr outcome
  | .not operand, fuel + 1, fuel' + 1, outcome, isTest, enough, enough', agrees =>
      AgreesOn.definiteAtoms operand fuel fuel' (!outcome) isTest (Nat.le_of_succ_le_succ enough)
        (Nat.le_of_succ_le_succ enough') agrees
  | .and left right, fuel + 1, fuel' + 1, outcome, isTest, enough, enough', agrees => by
      obtain ⟨isLeft, isRight⟩ := Bool.and_eq_true_iff.1 isTest
      obtain ⟨leftEnough, rightEnough⟩ := Nat.max_le.1 (Nat.le_of_succ_le_succ enough)
      obtain ⟨leftEnough', rightEnough'⟩ := Nat.max_le.1 (Nat.le_of_succ_le_succ enough')
      rw [Scope.definiteAtoms, Scope.definiteAtoms,
        AgreesOn.definiteAtoms left fuel fuel' true isLeft leftEnough leftEnough' agrees.left,
        AgreesOn.definiteAtoms right fuel fuel' true isRight rightEnough rightEnough' agrees.right]
  | .or left right, fuel + 1, fuel' + 1, outcome, isTest, enough, enough', agrees => by
      obtain ⟨isLeft, isRight⟩ := Bool.and_eq_true_iff.1 isTest
      obtain ⟨leftEnough, rightEnough⟩ := Nat.max_le.1 (Nat.le_of_succ_le_succ enough)
      obtain ⟨leftEnough', rightEnough'⟩ := Nat.max_le.1 (Nat.le_of_succ_le_succ enough')
      rw [Scope.definiteAtoms, Scope.definiteAtoms,
        AgreesOn.definiteAtoms left fuel fuel' false isLeft leftEnough leftEnough' agrees.left,
        AgreesOn.definiteAtoms right fuel fuel' false isRight rightEnough rightEnough' agrees.right]
  | .call receiver written method arguments span, fuel + 1, fuel' + 1, outcome, _, _, _, agrees => by
      rw [Scope.definiteAtoms, Scope.definiteAtoms, agrees.checkAtom?]
  | .compare _ _ _, _ + 1, _ + 1, _, _, _, _, _ => rfl
  | .literal _, _, _, _, isTest, _, _, _ | .null, _, _, _, isTest, _, _, _
  | .variable _, _, _, _, isTest, _, _, _ | .construct _ _ _, _, _, _, isTest, _, _, _
  | .concat _ _, _, _, _, isTest, _, _, _ | .cast _ _, _, _, _, isTest, _, _, _ => nomatch isTest

theorem AgreesOn.opaqueReads : (expr : Expr) → (fuel fuel' : Nat) →
    expr.isPredicate = true → expr.testDepth ≤ fuel → expr.testDepth ≤ fuel' →
    first.AgreesOn second expr.reads →
    first.opaqueReads fuel expr = second.opaqueReads fuel' expr
  | .not operand, fuel + 1, fuel' + 1, isTest, enough, enough', agrees =>
      AgreesOn.opaqueReads operand fuel fuel' isTest (Nat.le_of_succ_le_succ enough)
        (Nat.le_of_succ_le_succ enough') agrees
  | .and left right, fuel + 1, fuel' + 1, isTest, enough, enough', agrees
  | .or left right, fuel + 1, fuel' + 1, isTest, enough, enough', agrees => by
      obtain ⟨isLeft, isRight⟩ := Bool.and_eq_true_iff.1 isTest
      obtain ⟨leftEnough, rightEnough⟩ := Nat.max_le.1 (Nat.le_of_succ_le_succ enough)
      obtain ⟨leftEnough', rightEnough'⟩ := Nat.max_le.1 (Nat.le_of_succ_le_succ enough')
      rw [Scope.opaqueReads, Scope.opaqueReads,
        AgreesOn.opaqueReads left fuel fuel' isLeft leftEnough leftEnough' agrees.left,
        AgreesOn.opaqueReads right fuel fuel' isRight rightEnough rightEnough' agrees.right]
  | .call receiver written method arguments span, fuel + 1, fuel' + 1, _, _, _, agrees => by
      rw [Scope.opaqueReads, Scope.opaqueReads, agrees.checkAtom?, agrees.definedReads]
  | .compare comparison left right, fuel + 1, fuel' + 1, _, _, _, agrees => by
      rw [Scope.opaqueReads, Scope.opaqueReads, agrees.definedReads]
  | .literal _, _, _, isTest, _, _, _ | .null, _, _, isTest, _, _, _
  | .variable _, _, _, isTest, _, _, _ | .construct _ _ _, _, _, isTest, _, _, _
  | .concat _ _, _, _, isTest, _, _, _ | .cast _ _, _, _, isTest, _, _, _ => nomatch isTest

/-- The variable that a call checks is read by the call. -/
theorem mem_reads_of_checkAtom {expr : Expr} {atom : GuardAtom}
    (isCheck : first.checkAtom? expr = some atom) : atom.subject ∈ expr.reads := by
  have isRead {operand : Expr} {subject : String}
      (isSubject : first.subject? operand = some subject) : subject ∈ operand.reads :=
    Expr.mem_reads_of_asVariable operand (Option.filter_eq_some_iff.1 isSubject).1
  unfold Scope.checkAtom? at isCheck
  split at isCheck
  case h_2 => exact nomatch isCheck
  case h_1 receiver written method argument span =>
    obtain ⟨operator, -, isCheck⟩ := Option.bind_eq_some_iff.1 isCheck
    split at isCheck
    · rename_i subject isSubject
      cases isCheck
      exact List.mem_append_left _ (isRead isSubject)
    · split at isCheck
      · obtain ⟨subject, isSubject, isCheck⟩ := Option.map_eq_some_iff.1 isCheck
        cases isCheck
        exact List.mem_append_right _ (List.mem_append_left _ (isRead isSubject))
      · exact nomatch isCheck

/-- The variable that is compared with nothing is one of those compared. -/
theorem mem_reads_of_nullSubject {left right : Expr} {subject : String}
    (isSubject : nullSubject? left right = some subject) : subject ∈ left.reads ++ right.reads := by
  unfold nullSubject? at isSubject
  split at isSubject
  · exact List.mem_append_right _ (Expr.mem_reads_of_asVariable right isSubject)
  · split at isSubject
    · exact List.mem_append_left _ (Expr.mem_reads_of_asVariable left isSubject)
    · exact nomatch isSubject

/-- The atoms of a test are about variables that it reads. -/
theorem mem_reads_of_mem_definiteAtoms {atom : GuardAtom} : (expr : Expr) → (fuel : Nat) →
    (outcome : Bool) → expr.isPredicate = true → atom ∈ first.definiteAtoms fuel expr outcome →
    atom.subject ∈ expr.reads
  | _, 0, _, _, member => absurd member List.not_mem_nil
  | .not operand, fuel + 1, outcome, isTest, member =>
      mem_reads_of_mem_definiteAtoms operand fuel (!outcome) isTest member
  | .and left right, fuel + 1, outcome, isTest, member => by
      obtain ⟨isLeft, isRight⟩ := Bool.and_eq_true_iff.1 isTest
      rw [Scope.definiteAtoms] at member
      split at member
      · exact List.mem_append.2 ((List.mem_append.1 member).imp
          (mem_reads_of_mem_definiteAtoms left fuel true isLeft)
          (mem_reads_of_mem_definiteAtoms right fuel true isRight))
      · cases member
  | .or left right, fuel + 1, outcome, isTest, member => by
      obtain ⟨isLeft, isRight⟩ := Bool.and_eq_true_iff.1 isTest
      rw [Scope.definiteAtoms] at member
      split at member
      · cases member
      · exact List.mem_append.2 ((List.mem_append.1 member).imp
          (mem_reads_of_mem_definiteAtoms left fuel false isLeft)
          (mem_reads_of_mem_definiteAtoms right fuel false isRight))
  | .call receiver written method arguments span, fuel + 1, outcome, _, member => by
      rw [Scope.definiteAtoms] at member
      split at member
      · rename_i check isCheck
        rw [List.mem_singleton.1 member]
        have isRead : check.subject ∈ _ := mem_reads_of_checkAtom isCheck
        exact isRead
      · cases member
  | .compare comparison left right, fuel + 1, outcome, _, member => by
      rw [Scope.definiteAtoms] at member
      split at member
      · rename_i subject isSubject
        rw [List.mem_singleton.1 member]
        exact mem_reads_of_nullSubject isSubject
      · cases member
  | .literal _, _ + 1, _, isTest, _ | .null, _ + 1, _, isTest, _
  | .variable _, _ + 1, _, isTest, _ | .construct _ _ _, _ + 1, _, isTest, _
  | .concat _ _, _ + 1, _, isTest, _ | .cast _ _, _ + 1, _, isTest, _ => nomatch isTest

/-- So are the parts of it that cannot be taken apart. -/
theorem mem_reads_of_mem_opaqueReads {name : String} : (expr : Expr) → (fuel : Nat) →
    expr.isPredicate = true → name ∈ first.opaqueReads fuel expr → name ∈ expr.reads
  | _, 0, _, member => absurd member List.not_mem_nil
  | .not operand, fuel + 1, isTest, member =>
      mem_reads_of_mem_opaqueReads operand fuel isTest member
  | .and left right, fuel + 1, isTest, member | .or left right, fuel + 1, isTest, member => by
      obtain ⟨isLeft, isRight⟩ := Bool.and_eq_true_iff.1 isTest
      exact List.mem_append.2 ((List.mem_append.1 member).imp
        (mem_reads_of_mem_opaqueReads left fuel isLeft)
        (mem_reads_of_mem_opaqueReads right fuel isRight))
  | .call receiver written method arguments span, fuel + 1, _, member
  | .compare comparison left right, fuel + 1, _, member => by
      rw [Scope.opaqueReads] at member
      split at member
      · cases member
      · exact Expr.mem_variableNames.1 (List.mem_filter.1 member).1
  | .literal _, _ + 1, isTest, _ | .null, _ + 1, isTest, _ | .variable _, _ + 1, isTest, _
  | .construct _ _ _, _ + 1, isTest, _ | .concat _ _, _ + 1, isTest, _
  | .cast _ _, _ + 1, isTest, _ => nomatch isTest

/-- What an outcome of a test says something of is read by the test. -/
theorem mem_reads_of_mem_subjects {test : Expr} (isTest : test.isPredicate = true) {id : Nat}
    {span : Span} {outcome : Bool} {subject : String}
    (isSubject : subject ∈ (first.decompose id test span).subjects outcome) :
    subject ∈ test.reads := by
  rcases List.mem_append.1 (Names.mem_distinct.1 isSubject) with isChecked | isOpaque
  · obtain ⟨atom, member, rfl⟩ := List.mem_map.1 isChecked
    cases outcome with
    | false => exact mem_reads_of_mem_definiteAtoms test _ false isTest member
    | true => exact mem_reads_of_mem_definiteAtoms test _ true isTest member
  · exact mem_reads_of_mem_opaqueReads test _ isTest (Names.mem_distinct.1 isOpaque)

/-- A flag that stands for a test is taken apart as the test is. -/
theorem AgreesOn.decompose_flag {flag : String} {test : Expr}
    (stands : first.aliases.get? flag = some test) (isTest : test.isPredicate = true)
    (depth : test.testDepth ≤ maxNesting) (agrees : first.AgreesOn second test.reads)
    (id : Nat) (span span' : Span) :
    (∀ outcome, (first.decompose id (.variable flag) span).atoms outcome =
      (second.decompose id test span').atoms outcome) ∧
    (first.decompose id (.variable flag) span).opaqueSubjects =
      (second.decompose id test span').opaqueSubjects := by
  have deeper : test.testDepth ≤ maxNesting + 1 := Nat.le_succ_of_le depth
  have atoms (outcome : Bool) : first.definiteAtoms (maxNesting + 1) (.variable flag) outcome =
      second.definiteAtoms (maxNesting + 1) test outcome := by
    rw [Scope.definiteAtoms, stands]
    exact agrees.definiteAtoms test _ _ outcome isTest depth deeper
  have reads : first.opaqueReads (maxNesting + 1) (.variable flag) =
      second.opaqueReads (maxNesting + 1) test := by
    rw [Scope.opaqueReads, stands]
    exact agrees.opaqueReads test _ _ isTest depth deeper
  refine ⟨fun outcome => ?_, congrArg Names.distinct reads⟩
  cases outcome with
  | false => exact atoms false
  | true => exact atoms true

end Scope

namespace AliasTable

/-- The bindings after two parts of a body are those after the one part and then the other. -/
theorem after_append (stmts rest : List Stmt) (table : AliasTable) :
    after (stmts ++ rest) table = after rest (after stmts table) := by
  induction stmts generalizing table with
  | nil => rfl
  | cons stmt stmts inductionHypothesis => exact inductionHypothesis _

/-- A flag that holds a test before a loop, and that the body gives the test at its end, stands for
it at the head, whatever else the body does. -/
theorem get?_atLoopHead_of_renewed {entry : AliasTable} {flag : String} {test : Expr}
    (isTest : test.isPredicate = true) (isOther : flag ∉ test.variableNames)
    (body : List Stmt) (span : Span) :
    (atLoopHead (entry.assign flag test) (after (body ++ [.assign flag test span]))).get? flag =
      some test := by
  let kept : AliasTable := .insert .empty flag test
  have assigned (table : AliasTable) : kept.Within (table.assign flag test) := by
    intro other predicate bound
    rw [StringMap.get?_insert] at bound
    split at bound
    · rename_i same
      exact get?_assign.2 (.inl ⟨same, (Option.some.inj bound).symm, isTest, isOther⟩)
    · exact nomatch bound
  have atEnd : kept.Within (after (body ++ [.assign flag test span]) kept) := by
    rw [after_append]
    exact assigned _
  have atHead := within_atLoopHead (after_mono _) (assigned entry) atEnd
  refine atHead flag test ?_
  rw [StringMap.get?_insert, if_pos rfl]

end AliasTable

/-- The guard nodes of a draft belong to its guards. -/
theorem Draft.IsReachable.knowsGuards {draft : Draft} (reachable : draft.IsReachable) :
    draft.KnowsGuards := by
  rintro number guard outcome subject ⟨node, present, isGuard, -⟩
  obtain ⟨condition, -, known, -⟩ :=
    reachable.isWellFormed.guard number node guard outcome present isGuard
  exact (Array.getElem?_eq_some_iff.1 known).1

namespace Build

open FlowNode

variable {context : BuildContext} {environment : Environment} {draft final : Draft}

/-- A test that has nodes is no deeper than statements and expressions may be. -/
theorem lower_depth {test : Expr} {node : Nat}
    (ends : (lower context environment test).run draft = .ok (node, final)) :
    test.testDepth ≤ maxNesting := by
  obtain ⟨fits, -⟩ := (lower_ends environment test).result draft node final rfl ends
  have atMost := test.testDepth_le_levels
  omega

/-- The head of a loop defines the variables that are defined before it. -/
theorem addLoopNodes_defines {span : Span} {entry head after : Environment} {names : List String}
    {nodes : List (String × Nat)}
    (defined : ∀ name, entry.definitions.contains name = true →
      head.definitions.contains name = true)
    (ends : (addLoopNodes context span entry names head).run draft = .ok ((nodes, after), final))
    (name : String) : after.definitions.contains name = head.definitions.contains name := by
  induction names generalizing head draft final nodes with
  | nil =>
      obtain ⟨same, -⟩ := pure_ok.1 ends
      obtain ⟨-, rfl⟩ := Prod.mk.inj same
      rfl
  | cons written names inductionHypothesis =>
      rw [addLoopNodes] at ends
      split at ends
      · exact inductionHypothesis defined ends
      · rename_i definition isDefined
        have ends := addNode_edge_ok ends
        obtain ⟨⟨nodes', after'⟩, between, later, ends⟩ := bind_ok.1 ends
        obtain ⟨same, -⟩ := pure_ok.1 ends
        obtain ⟨-, rfl⟩ := Prod.mk.inj same
        have isDefined' : head.definitions.contains written = true :=
          defined written (Option.isSome_iff_exists.2 ⟨definition, isDefined⟩)
        have kept (other : String) :
            (head.define written draft.nodes.size).definitions.contains other =
              head.definitions.contains other := by
          rw [Environment.define, StringMap.contains, StringMap.get?_insert]
          split
          · rename_i same
            rw [same, isDefined']
            rfl
          · rfl
        rw [inductionHypothesis (fun other holds => (kept other).trans (defined other holds)) later,
          kept]

/-- What the construction records of the test of a loop: the guard with its number, and guard nodes
for what the guard says something of. -/
structure RecordsLoop (context : BuildContext) (test : Expr) (body : List Stmt) (span : Span)
    (environment head : Environment) (draft final : Draft) : Prop where
  aliases : head.aliases = AliasTable.atLoopHead environment.aliases (AliasTable.after body)
  defined : ∀ name, head.definitions.contains name = environment.definitions.contains name
  depth : test.testDepth ≤ maxNesting
  known : final.guards[draft.guards.size]? =
    some ((context.scope head).decompose draft.guards.size test span)
  nodes : HasGuardNodes final ((context.scope head).decompose draft.guards.size test span) head

theorem addStmt_recordsLoop (knows : draft.KnowsGuards) {test : Expr} {body : List Stmt}
    {span : Span} {after : Environment}
    (ends : (addStmt context (.loop test body span) environment).run draft =
      .ok (after, final)) :
    ∃ head, RecordsLoop context test body span environment head draft final := by
  rw [addStmt] at ends
  obtain ⟨-, last, stops, rfl⟩ := nested_ok.1 ends
  have knows : Draft.KnowsGuards { draft with depth := draft.depth + 1 } :=
    knows.move Draft.Move.level.moves
  obtain ⟨⟨nodes, head⟩, second, heads, ends⟩ := bind_ok.1 stops
  obtain ⟨_, third, lowers, ends⟩ := bind_ok.1 ends
  obtain ⟨guard, fourth, adds, ends⟩ := bind_ok.1 ends
  have entered (aliases : AliasTable) :
      environment.Renews draft.nodes.size { environment with aliases } := .refl _ environment
  obtain ⟨moves, kept, -, isHead, -⟩ :=
    addLoopNodes_moves span (Stmt.assigned body) (entered _) (by exact Nat.le_refl _) _ _ heads
  obtain ⟨moves', kept'⟩ := lower_moves test _ _ lowers
  have knows := (knows.move moves).move moves'
  obtain ⟨moves'', isGuard, known, isNew⟩ := addGuard_moves knows test span _ _ adds
  have size : third.guards.size = draft.guards.size := by rw [kept', kept]
  rw [size] at isGuard
  subst isGuard
  have heads' : ∀ named ∈ nodes, LoopHeadAt fourth.nodes named.2 ∧
      ∃ node, head.Defines named.1 node ∧ named.2 ≤ node := fun named member =>
    ⟨moves''.loopHeadAt (moves'.loopHeadAt (isHead named member).1), (isHead named member).2⟩
  obtain ⟨rounds, -, hasNodes⟩ := rounds_moves (knows.move moves'') isNew heads'
    (fun {inside _} knows => addAll_moves body knows) after last
    (by simpa only [bind_assoc] using ends)
  have defined := addLoopNodes_defines (fun _ holds => by exact holds) heads
  refine ⟨head, (addLoopNodes_continues heads).aliases, defined, ?_,
    rounds.getElem?_guards known, hasNodes⟩
  exact lower_depth lowers

/-- What follows a loop changes nothing of its test. -/
theorem RecordsLoop.moved {test : Expr} {body : List Stmt} {span : Span} {head : Environment}
    {last : Draft} (records : RecordsLoop context test body span environment head draft final)
    (moves : final.Moves last) : RecordsLoop context test body span environment head draft last := by
  obtain ⟨within, -⟩ := Array.getElem?_eq_some_iff.1 records.known
  refine ⟨records.aliases, records.defined, records.depth, moves.getElem?_guards records.known,
    fun outcome subject => ?_⟩
  rw [← records.nodes]
  exact exists_congr fun number => moves.guardAt_iff within

/-- An assignment records no guard and writes its variable only. -/
theorem addStmt_assign {name : String} {value : Expr} {span : Span} {after : Environment}
    (ends : (addStmt context (.assign name value span) environment).run draft =
      .ok (after, final)) :
    final.guards = draft.guards ∧ ∃ node, after =
      { environment.define name node with
        aliases := AliasTable.assign environment.aliases name value } := by
  rw [addStmt] at ends
  obtain ⟨-, last, assigns, rfl⟩ := nested_ok.1 ends
  unfold assign at assigns
  obtain ⟨valueNode, between, lowers, assigns⟩ := bind_ok.1 assigns
  obtain ⟨-, kept⟩ := lower_moves value _ _ lowers
  have assigns := addNode_edge_ok assigns
  obtain ⟨rfl, rfl⟩ := pure_ok.1 assigns
  exact ⟨kept, _, rfl⟩

/-- The guard with a number in one draft, that of a test, says the same as the guard with the number
in the other, that of another test, and refines the same variables. -/
structure HasSameGuard (number : Nat) (test test' : Expr) (first second : Draft) : Prop where
  guards : ∃ guard guard', first.guards[number]? = some guard ∧
    second.guards[number]? = some guard' ∧ guard.text = test.text ∧ guard'.text = test'.text ∧
    guard.onTrue = guard'.onTrue ∧ guard.onFalse = guard'.onFalse ∧
    guard.opaqueSubjects = guard'.opaqueSubjects
  nodes : ∀ outcome subject,
    (∃ node, GuardAt first.nodes node number outcome subject) ↔
      ∃ node, GuardAt second.nodes node number outcome subject

/-- At the heads of a loop on a flag and of a loop on the test that it stands for, the guards say
the same. -/
theorem RecordsLoop.hasSameGuard {flag : String} {test : Expr} {body body' : List Stmt}
    {span span' : Span} {start head head' : Environment} {draft' final' : Draft}
    (records : RecordsLoop context (.variable flag) body span start head draft final)
    (records' : RecordsLoop context test body' span' environment head' draft' final')
    (number : draft.guards.size = draft'.guards.size) (isTest : test.isPredicate = true)
    (stands : head.aliases.get? flag = some test)
    (same : ∀ name ∈ test.reads,
      start.definitions.contains name = environment.definitions.contains name) :
    HasSameGuard draft.guards.size (.variable flag) test final final' := by
  have known' := records'.known
  have nodes' := records'.nodes
  rw [← number] at known' nodes'
  have defined : ∀ name ∈ test.reads,
      head.definitions.contains name = head'.definitions.contains name := fun name member => by
    rw [records.defined, records'.defined, same name member]
  have agrees : (context.scope head).AgreesOn (context.scope head') test.reads :=
    ⟨defined, fun _ _ => rfl⟩
  obtain ⟨atoms, opaques⟩ :=
    agrees.decompose_flag stands isTest records'.depth draft.guards.size span span'
  refine ⟨⟨_, _, records.known, known', rfl, rfl, atoms true, atoms false, opaques⟩,
    fun outcome subject => ?_⟩
  refine (records.nodes outcome subject).trans (Iff.trans ?_ (nodes' outcome subject).symm)
  rw [GuardCondition.subjects, GuardCondition.subjects, atoms, opaques]
  refine and_congr_right fun isSubject => ?_
  have isRead := Scope.mem_reads_of_mem_subjects isTest isSubject
  calc (∃ definition, head.Defines subject definition)
    _ ↔ head.definitions.contains subject = true := Option.isSome_iff_exists.symm
    _ ↔ head'.definitions.contains subject = true := by rw [defined subject isRead]
    _ ↔ ∃ definition, head'.Defines subject definition := Option.isSome_iff_exists

/-- A loop on a flag that is given a test before the loop, and again at the end of its body, has the
guard of the loop on the test, whatever else the body does and whatever follows.  The flag need only
be none of the variables that the test reads. -/
theorem loop_hasSameGuard {rest rest' body : List Stmt} {flag : String} {test : Expr}
    {first again span span' : Span} {after after' : Environment} {final' : Draft}
    (reachable : draft.IsReachable) (isTest : test.isPredicate = true)
    (isOther : flag ∉ test.variableNames)
    (hoisted : (addAll context (.assign flag test first ::
      .loop (.variable flag) (body ++ [.assign flag test again]) span :: rest)
        environment).run draft = .ok (after, final))
    (direct : (addAll context (.loop test body span' :: rest') environment).run draft =
      .ok (after', final')) :
    HasSameGuard draft.guards.size (.variable flag) test final final' := by
  have knows := reachable.knowsGuards
  obtain ⟨start, between, assigns, hoisted⟩ := bind_ok.1 hoisted
  obtain ⟨behind, atExit, loops, others⟩ := bind_ok.1 hoisted
  obtain ⟨behind', atExit', loops', others'⟩ := bind_ok.1 direct
  obtain ⟨moves, -⟩ := addStmt_moves _ knows _ _ assigns
  obtain ⟨kept, node, rfl⟩ := addStmt_assign assigns
  have knowsStart := knows.move moves
  -- both loops are recorded at once, and what follows changes nothing of that
  obtain ⟨head, records⟩ := addStmt_recordsLoop knowsStart loops
  obtain ⟨moves, -⟩ := addStmt_moves _ knowsStart _ _ loops
  have records := records.moved (addAll_moves rest (knowsStart.move moves) _ _ others).1
  obtain ⟨head', records'⟩ := addStmt_recordsLoop knows loops'
  obtain ⟨moves', -⟩ := addStmt_moves _ knows _ _ loops'
  have records' := records'.moved (addAll_moves rest' (knows.move moves') _ _ others').1
  have number : between.guards.size = draft.guards.size := by rw [kept]
  have stands : head.aliases.get? flag = some test := by
    rw [records.aliases]
    exact AliasTable.get?_atLoopHead_of_renewed isTest isOther body again
  rw [← number]
  refine records.hasSameGuard records' number isTest stands fun name isRead => ?_
  have different : name ≠ flag := fun same =>
    isOther (Expr.mem_variableNames.2 (same ▸ isRead))
  rw [Environment.define, StringMap.contains, StringMap.get?_insert, if_neg different]
  rfl

end Build

namespace DecodingLoop

open Build

def context : BuildContext := ⟨catalog, .empty, procedure⟩

/-- The draft behind the assignment of the parameter to the path. -/
def started : Draft where
  nodes := #[⟨.sourceCall, "getParameter()", .zero, none⟩,
    ⟨.variableRef, "path = getParameter()", .zero, some "path"⟩]
  edges := [⟨0, 1, .plain .assign⟩]
  guards := #[]
  sources := [0]
  sinks := []
  declaredTypes := .empty
  undefinedReads := .empty
  depth := 0

theorem started_isReachable : started.IsReachable := by
  have ends : (addAll context [.declare "path" none (some (.localCall "getParameter" [])) .zero]
      .entry).run .empty = .ok (environment 1, started) := by cbv
  exact (addAll_ensures _ .refl (Environment.holdsIn_entry _) _ _ ends).1

/-- Whether an escape is left in the path. -/
def isEncoded : Expr := .methodCall (.variable "path") "contains" [.literal "%"]

def decoding : Stmt := .assign "path" (.localCall "decode" [.variable "path"]) .zero

def asking : Stmt := .assign "encoded" isEncoded .zero

def hoisted : List Stmt := [asking, .loop (.variable "encoded") ([decoding] ++ [asking]) .zero]

def direct : List Stmt := [.loop isEncoded [decoding] .zero]

/-- The loop that decodes has the same guard when the question stands in a flag, and refines the
path. -/
theorem hoisted_hasSameGuard : ∃ after final after' final',
    (addAll context hoisted (environment 1)).run started = .ok (after, final) ∧
    (addAll context direct (environment 1)).run started = .ok (after', final') ∧
    HasSameGuard 0 (.variable "encoded") isEncoded final final' := by
  have ends {stmts : List Stmt}
      (isOk : ((addAll context stmts (environment 1)).run started).isOk = true) :
      ∃ after final, (addAll context stmts (environment 1)).run started = .ok (after, final) := by
    cases found : (addAll context stmts (environment 1)).run started with
    | error failure =>
        rw [found] at isOk
        exact nomatch isOk
    | ok result => exact ⟨result.1, result.2, rfl⟩
  have isOk : ((addAll context hoisted (environment 1)).run started).isOk = true := by
    decide +kernel
  have isOk' : ((addAll context direct (environment 1)).run started).isOk = true := by
    decide +kernel
  obtain ⟨after, final, hoistedEnds⟩ := ends isOk
  obtain ⟨after', final', directEnds⟩ := ends isOk'
  have isTest : isEncoded.isPredicate = true := rfl
  have isOther : "encoded" ∉ isEncoded.variableNames := by decide
  have sameGuard := loop_hasSameGuard started_isReachable isTest isOther hoistedEnds directEnds
  exact ⟨after, final, after', final', hoistedEnds, directEnds, sameGuard⟩

end DecodingLoop

end ForwardTaint
