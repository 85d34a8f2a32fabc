import ForwardTaint.Proofs.GraphOrder
import ForwardTaint.Proofs.Nesting

/-!
How the steps of the construction end.  A step gets through exactly if its deepest part is within
the limit, as long as there is room for its nodes, and gives back the levels that it took for its
parts; it may add a node for each expression that is not a cast, for each value that is written, and
wherever ways meet or a test says something, for each variable.
-/

namespace ForwardTaint

namespace Expr

mutual

/-- The greatest number of nodes that are added for an expression; a cast adds none of its own. -/
def size : Expr → Nat
  | .literal _ | .null | .variable _ => 1
  | .call receiver _ _ arguments _ => sizeOfOption receiver + sizeOfAll arguments + 1
  | .construct _ arguments _ => sizeOfAll arguments + 1
  | .concat operands _ => sizeOfAll operands + 1
  | .not operand => operand.size + 1
  | .and left right | .or left right | .compare _ left right => left.size + right.size + 1
  | .cast _ operand => operand.size

/-- The greatest number of nodes for an expression that may be absent. -/
def sizeOfOption : Option Expr → Nat
  | none => 0
  | some expr => expr.size

/-- The greatest number of nodes for expressions. -/
def sizeOfAll : List Expr → Nat
  | [] => 0
  | expr :: rest => expr.size + sizeOfAll rest

end

end Expr

namespace Stmt

mutual

/-- The greatest number of nodes that are added for a statement among so many variables, each of
which the outcomes of a test may refine, and the ways that meet may join. -/
def size (named : Nat) : Stmt → Nat
  | .declare _ _ none _ | .return none _ => 0
  | .declare _ _ (some value) _ | .assign _ value _ | .return (some value) _ => value.size + 1
  | .evaluate expr _ => expr.size
  | .branch test accepted rejected _ =>
      test.size + sizeOfAll named accepted + sizeOfOption named rejected + 3 * named
  | .loop test body _ => test.size + sizeOfAll named body + 3 * named
  | .block body => sizeOfAll named body
  | .attempt body handlers final =>
      sizeOfAll named body + sizeOfHandlers named handlers + sizeOfOption named final +
        2 * named

/-- The greatest number of nodes for statements. -/
def sizeOfAll (named : Nat) : List Stmt → Nat
  | [] => 0
  | stmt :: rest => stmt.size named + sizeOfAll named rest

/-- The greatest number of nodes for statements that may be absent. -/
def sizeOfOption (named : Nat) : Option (List Stmt) → Nat
  | none => 0
  | some stmts => sizeOfAll named stmts

/-- The greatest number of nodes for handlers. -/
def sizeOfHandlers (named : Nat) : List Handler → Nat
  | [] => 0
  | ⟨_, _, body⟩ :: rest => sizeOfAll named body + sizeOfHandlers named rest

end

end Stmt

namespace StringMap

variable {Value : Type}

theorem sorted_mergeNames {first second : List String} (sorted : first.Pairwise (· < ·))
    (sorted' : second.Pairwise (· < ·)) : (mergeNames first second).Pairwise (· < ·) := by
  fun_induction mergeNames first second with
  | case1 => exact sorted'
  | case2 => exact sorted
  | case3 name first other second before inductionHypothesis =>
      obtain ⟨below, rest⟩ := List.pairwise_cons.1 sorted
      refine List.pairwise_cons.2 ⟨fun later member => ?_, inductionHypothesis rest sorted'⟩
      rcases mem_mergeNames.1 member with inFirst | inSecond
      · exact below later inFirst
      · rcases List.mem_cons.1 inSecond with rfl | inRest
        · exact before
        · exact String.lt_trans before ((List.pairwise_cons.1 sorted').1 later inRest)
  | case4 name first other second notBefore after inductionHypothesis =>
      obtain ⟨below, rest⟩ := List.pairwise_cons.1 sorted'
      refine List.pairwise_cons.2 ⟨fun later member => ?_, inductionHypothesis sorted rest⟩
      rcases mem_mergeNames.1 member with inFirst | inSecond
      · rcases List.mem_cons.1 inFirst with rfl | inRest
        · exact after
        · exact String.lt_trans after ((List.pairwise_cons.1 sorted).1 later inRest)
      · exact below later inSecond
  | case5 name first other second notBefore notAfter inductionHypothesis =>
      have equal : name = other :=
        String.le_antisymm (String.not_lt.1 notAfter) (String.not_lt.1 notBefore)
      subst equal
      obtain ⟨below, rest⟩ := List.pairwise_cons.1 sorted
      obtain ⟨below', rest'⟩ := List.pairwise_cons.1 sorted'
      refine List.pairwise_cons.2 ⟨fun later member => ?_, inductionHypothesis rest rest'⟩
      exact (mem_mergeNames.1 member).elim (below later) (below' later)

theorem nodup_allNames (maps : List (StringMap Value)) : (allNames maps).Nodup := by
  have sorted : ∀ names : List String, names.Pairwise (· < ·) →
      (maps.foldl (fun names map => mergeNames names map.names) names).Pairwise (· < ·) := by
    induction maps with
    | nil => exact fun names => id
    | cons map maps inductionHypothesis =>
        intro names sorted
        exact inductionHypothesis _
          (sorted_mergeNames sorted (List.pairwise_map.2 map.ordered))
  exact (sorted [] .nil).imp fun before => by rintro rfl; exact String.lt_irrefl _ before

end StringMap

namespace Environment

variable {names : List String} {environment : Environment}

/-- Only names of the list are defined. -/
def DefinesAmong (names : List String) (environment : Environment) : Prop :=
  ∀ name node, environment.definitions.get? name = some node → name ∈ names

theorem DefinesAmong.define (among : environment.DefinesAmong names) {name : String}
    (member : name ∈ names) (node : Nat) : (environment.define name node).DefinesAmong names := by
  intro other otherNode defined
  rw [Environment.define, StringMap.get?_insert] at defined
  split at defined
  · rename_i same
    exact same ▸ member
  · exact among other otherNode defined

theorem DefinesAmong.forget (among : environment.DefinesAmong names) (name : String) :
    (environment.forget name).DefinesAmong names := by
  intro other otherNode defined
  rw [Environment.forget, StringMap.get?_erase] at defined
  split at defined
  · exact nomatch defined
  · exact among other otherNode defined

theorem DefinesAmong.withAliases (among : environment.DefinesAmong names) (aliases : AliasTable) :
    ({ environment with aliases } : Environment).DefinesAmong names := among

theorem DefinesAmong.unreachable (among : environment.DefinesAmong names) :
    ({ environment with reachable := false } : Environment).DefinesAmong names := among

end Environment

namespace Build

variable {context : BuildContext} {level : Nat} {First Second : Type}

/-- A step of the construction at a level.  It fails if it comes to parts that lie too deep, and for
nothing else but for more nodes than there is room for; else the result is good, at most so many nodes
are new, and the level is the same as before. -/
structure Ends (step : Build First) (context : BuildContext) (level room : Nat) (fits : Prop)
    (good : First → Prop) : Prop where
  result : ∀ draft value final, draft.depth = level → step.run draft = .ok (value, final) →
    fits ∧ good value ∧ final.nodes.size ≤ draft.nodes.size + room ∧ final.depth = level
  failure : ∀ draft error, draft.depth = level → step.run draft = .error error →
    error = .nestingLimit context.procedure.name ∧ ¬fits ∨
    error = .nodeLimit context.procedure.name ∧ maxNodes < draft.nodes.size + room

theorem bind_error {first : Build First} {next : First → Build Second} {draft : Draft}
    {error : BuildError} :
    (first >>= next).run draft = .error error ↔
      first.run draft = .error error ∨ ∃ middle between,
        first.run draft = .ok (middle, between) ∧ (next middle).run between = .error error := by
  rw [StateT.run_bind]
  cases first.run draft with
  | error failure =>
      constructor
      · exact fun failed => .inl (congrArg Except.error (Except.error.inj failed))
      · rintro (failed | ⟨middle, between, stops, -⟩)
        · exact congrArg Except.error (Except.error.inj failed)
        · exact nomatch stops
  | ok output =>
      obtain ⟨middle, between⟩ := output
      constructor
      · exact fun failed => .inr ⟨middle, between, rfl, failed⟩
      · rintro (failed | ⟨middle', between', same, failed⟩)
        · exact nomatch failed
        · obtain ⟨rfl, rfl⟩ := Prod.mk.inj (Except.ok.inj same)
          exact failed

theorem Ends.mono {step : Build First} {room room' : Nat} {fits fits' : Prop}
    {good good' : First → Prop} (ends : step.Ends context level room fits good) (more : room ≤ room')
    (same : fits ↔ fits') (implies : ∀ value, good value → good' value) :
    step.Ends context level room' fits' good' where
  result draft value final atLevel stops := by
    obtain ⟨fit, holds, grown, leaves⟩ := ends.result draft value final atLevel stops
    exact ⟨same.1 fit, implies value holds, by omega, leaves⟩
  failure draft error atLevel fails := by
    rcases ends.failure draft error atLevel fails with ⟨deep, misfit⟩ | ⟨full, many⟩
    · exact .inl ⟨deep, mt same.2 misfit⟩
    · exact .inr ⟨full, by omega⟩

theorem Ends.within {step : Build First} {room room' : Nat} {fits fits' : Prop}
    {good : First → Prop} (ends : step.Ends context level room fits good) (more : room ≤ room')
    (same : fits ↔ fits') : step.Ends context level room' fits' good :=
  ends.mono more same fun _ => id

theorem Ends.grow {step : Build First} {room room' : Nat} {fits : Prop} {good : First → Prop}
    (ends : step.Ends context level room fits good) (more : room ≤ room') :
    step.Ends context level room' fits good :=
  ends.within more Iff.rfl

theorem Ends.fit {step : Build First} {room : Nat} {fits : Prop} {good : First → Prop}
    (ends : step.Ends context level room True good) (fit : fits) :
    step.Ends context level room fits good :=
  ends.within (Nat.le_refl room) (iff_of_true trivial fit)

theorem Ends.bind {first : Build First} {next : First → Build Second} {room room' : Nat}
    {fits fits' : Prop} {good : First → Prop} {good' : Second → Prop}
    (ends : first.Ends context level room fits good)
    (then' : fits → ∀ value, good value → (next value).Ends context level room' fits' good') :
    (first >>= next).Ends context level (room + room') (fits ∧ fits') good' where
  result draft value final atLevel stops := by
    obtain ⟨middle, between, firstStops, nextStops⟩ := bind_ok.1 stops
    obtain ⟨fit, holds, grown, leaves⟩ := ends.result draft middle between atLevel firstStops
    obtain ⟨fit', holds', grown', leaves'⟩ :=
      (then' fit middle holds).result between value final leaves nextStops
    exact ⟨⟨fit, fit'⟩, holds', by omega, leaves'⟩
  failure draft error atLevel fails := by
    rcases bind_error.1 fails with firstFails | ⟨middle, between, firstStops, nextFails⟩
    · rcases ends.failure draft error atLevel firstFails with ⟨deep, misfit⟩ | ⟨full, many⟩
      · exact .inl ⟨deep, fun both => misfit both.1⟩
      · exact .inr ⟨full, by omega⟩
    · obtain ⟨fit, holds, grown, leaves⟩ := ends.result draft middle between atLevel firstStops
      rcases (then' fit middle holds).failure between error leaves nextFails with
        ⟨deep, misfit⟩ | ⟨full, many⟩
      · exact .inl ⟨deep, fun both => misfit both.2⟩
      · exact .inr ⟨full, by omega⟩

/-- What follows comes to no more parts. -/
theorem Ends.bindFree {first : Build First} {next : First → Build Second} {room room' : Nat}
    {fits : Prop} {good : First → Prop} {good' : Second → Prop}
    (ends : first.Ends context level room fits good)
    (then' : fits → ∀ value, good value → (next value).Ends context level room' True good') :
    (first >>= next).Ends context level (room + room') fits good' :=
  (ends.bind then').within (Nat.le_refl _) (iff_of_eq (and_true _))

/-- What goes before comes to no parts. -/
theorem Ends.freeBind {first : Build First} {next : First → Build Second} {room room' : Nat}
    {fits : Prop} {good : First → Prop} {good' : Second → Prop}
    (ends : first.Ends context level room True good)
    (then' : ∀ value, good value → (next value).Ends context level room' fits good') :
    (first >>= next).Ends context level (room + room') fits good' :=
  (ends.bind fun _ => then').within (Nat.le_refl _) (iff_of_eq (true_and _))

/-- A step that cannot fail and adds no nodes goes before. -/
theorem Ends.after {first : Build First} {next : First → Build Second} {room : Nat} {fits : Prop}
    {good : First → Prop} {good' : Second → Prop} (ends : first.Ends context level 0 True good)
    (then' : ∀ value, good value → (next value).Ends context level room fits good') :
    (first >>= next).Ends context level room fits good' :=
  (ends.freeBind then').grow (Nat.le_of_eq (Nat.zero_add room))

/-- A step that cannot fail and adds no nodes goes behind. -/
theorem Ends.before {first : Build First} {next : First → Build Second} {room : Nat} {fits : Prop}
    {good : First → Prop} {good' : Second → Prop} (ends : first.Ends context level room fits good)
    (then' : ∀ value, good value → (next value).Ends context level 0 True good') :
    (first >>= next).Ends context level room fits good' :=
  ends.bindFree fun _ => then'

theorem Ends.ite {condition : Prop} [Decidable condition] {first second : Build First} {room : Nat}
    {fits : Prop} {good : First → Prop} (ends : first.Ends context level room fits good)
    (ends' : second.Ends context level room fits good) :
    (if condition then first else second).Ends context level room fits good := by
  split
  · exact ends
  · exact ends'

/-- A step that cannot fail and leaves the nodes and the level as they are. -/
theorem ends_of_run {step : Build First} {good : First → Prop}
    (runs : ∀ draft, ∃ value final, step.run draft = .ok (value, final) ∧ good value ∧
      final.nodes = draft.nodes ∧ final.depth = draft.depth) :
    step.Ends context level 0 True good where
  result draft value final atLevel stops := by
    obtain ⟨value', final', stops', holds, same, leaves⟩ := runs draft
    obtain ⟨rfl, rfl⟩ := Prod.mk.inj (Except.ok.inj (stops.symm.trans stops'))
    exact ⟨trivial, holds, by rw [same]; exact Nat.le_refl _, leaves.trans atLevel⟩
  failure draft error _ fails := by
    obtain ⟨value, final, stops, -⟩ := runs draft
    exact nomatch fails.symm.trans stops

theorem Ends.pure {value : First} {room : Nat} {good : First → Prop} (holds : good value) :
    (Pure.pure value : Build First).Ends context level room True good :=
  (ends_of_run fun draft => ⟨value, draft, rfl, holds, rfl, rfl⟩).grow (Nat.zero_le room)

theorem get_ends : (get : Build Draft).Ends context level 0 True fun _ => True :=
  ends_of_run fun draft => ⟨draft, draft, rfl, trivial, rfl, rfl⟩

theorem modify_ends {change : Draft → Draft}
    (same : ∀ draft, (change draft).nodes = draft.nodes ∧ (change draft).depth = draft.depth) :
    (modify change : Build Unit).Ends context level 0 True fun _ => True :=
  ends_of_run fun draft => ⟨(), change draft, rfl, trivial, same draft⟩

theorem enter_error {draft : Draft} {error : BuildError} :
    (enter context).run draft = .error error ↔
      maxNesting ≤ draft.depth ∧ error = .nestingLimit context.procedure.name := by
  constructor
  · intro fails
    rcases bind_error.1 fails with failed | ⟨_, between, deeper, fails⟩
    · exact nomatch failed
    · obtain rfl := modify_ok.1 deeper
      rcases bind_error.1 fails with failed | ⟨read, after, gets, fails⟩
      · exact nomatch failed
      · obtain ⟨rfl, rfl⟩ := get_ok.1 gets
        split at fails
        · rename_i deep
          exact ⟨Nat.le_of_lt_succ deep, (Except.error.inj fails).symm⟩
        · exact nomatch fails
  · rintro ⟨deep, rfl⟩
    refine bind_error.2 (.inr ⟨(), _, modify_ok.2 rfl,
      bind_error.2 (.inr ⟨_, _, get_ok.2 ⟨rfl, rfl⟩, ?_⟩)⟩)
    rw [if_pos (Nat.lt_succ_of_le deep)]
    rfl

/-- A step one level deeper fails if the level is too deep, and where the step fails there. -/
theorem nested_error {step : Build First} {draft : Draft} {error : BuildError} :
    (nested context step).run draft = .error error ↔
      maxNesting ≤ draft.depth ∧ error = .nestingLimit context.procedure.name ∨
      draft.depth < maxNesting ∧
        step.run { draft with depth := draft.depth + 1 } = .error error := by
  unfold nested
  rw [bind_error, enter_error]
  refine or_congr_right ⟨?_, ?_⟩
  · rintro ⟨_, between, enters, fails⟩
    obtain ⟨shallow, rfl⟩ := enter_ok.1 enters
    refine ⟨shallow, (bind_error.1 fails).resolve_right ?_⟩
    rintro ⟨value, inside, -, fails⟩
    exact nomatch fails
  · rintro ⟨shallow, fails⟩
    exact ⟨(), _, enter_ok.2 ⟨shallow, rfl⟩, bind_error.2 (.inl fails)⟩

/-- A step one level deeper needs that level.  It gives the level back, so what follows is at the
level from before. -/
theorem nested_ends {step : Build First} {room : Nat} {fits : Prop} {good : First → Prop}
    (ends : level < maxNesting → step.Ends context (level + 1) room fits good) :
    (nested context step).Ends context level room (level < maxNesting ∧ fits) good where
  result draft value final atLevel stops := by
    obtain ⟨shallow, between, stopsInside, rfl⟩ := nested_ok.1 stops
    rw [atLevel] at shallow
    obtain ⟨fit, holds, grown, leaves⟩ := (ends shallow).result
      { draft with depth := draft.depth + 1 } value between (congrArg (· + 1) atLevel) stopsInside
    exact ⟨⟨shallow, fit⟩, holds, grown, congrArg (· - 1) leaves⟩
  failure draft error atLevel fails := by
    rcases nested_error.1 fails with ⟨deep, rfl⟩ | ⟨shallow, failsInside⟩
    · rw [atLevel] at deep
      exact .inl ⟨rfl, fun both => absurd both.1 (Nat.not_lt.2 deep)⟩
    · rw [atLevel] at shallow
      rcases (ends shallow).failure { draft with depth := draft.depth + 1 } error
        (congrArg (· + 1) atLevel) failsInside with ⟨deep, misfit⟩ | fullInside
      · exact .inl ⟨deep, fun both => misfit both.2⟩
      · exact .inr fullInside

theorem addNode_ends (kind : NodeKind) (text : String) (span : Span) (variableName : Option String) :
    (addNode context kind text span variableName).Ends context level 1 True fun _ => True where
  result draft number final atLevel stops := by
    obtain ⟨-, -, rfl⟩ := addNode_ok.1 stops
    rw [Draft.nodes_withNode, Array.size_push]
    exact ⟨trivial, trivial, Nat.le_refl _, atLevel⟩
  failure draft error _ fails := by
    have full : maxNodes ≤ draft.nodes.size := by
      by_contra room
      exact nomatch fails.symm.trans (addNode_ok.2 ⟨Nat.lt_of_not_le room, rfl, rfl⟩)
    refine .inr ⟨?_, Nat.lt_succ_of_le full⟩
    rcases bind_error.1 fails with failed | ⟨middle, between, gets, fails⟩
    · exact nomatch failed
    · obtain ⟨rfl, rfl⟩ := get_ok.1 gets
      rw [if_pos full] at fails
      exact (Except.error.inj fails).symm

theorem addEdge_ends (source target : Nat) (label : EdgeLabel) :
    (addEdge source target label).Ends context level 0 True fun _ => True :=
  modify_ends fun _ => ⟨rfl, rfl⟩

theorem addEdges_ends (target : Nat) (sources : List (Nat × EdgeKind)) :
    (addEdges target sources).Ends context level 0 True fun _ => True := by
  induction sources with
  | nil => exact .pure trivial
  | cons source sources inductionHypothesis =>
      exact (addEdge_ends _ _ _).after fun _ _ => inductionHypothesis

theorem declareType_ends (name : String) (typeName : Option String) :
    (declareType name typeName).Ends context level 0 True fun _ => True := by
  cases typeName with
  | none => exact .pure trivial
  | some typeName => exact modify_ends fun _ => ⟨rfl, rfl⟩

theorem readVariable_ends (environment : Environment) (name : String) :
    (readVariable context environment name).Ends context level 1 True fun _ => True := by
  unfold readVariable
  split
  · exact .pure trivial
  · split
    · exact addNode_ends _ _ _ _
    · refine get_ends.after fun draft _ => ?_
      split
      · exact .pure trivial
      · exact (addNode_ends _ _ _ _).before fun _ _ =>
          .after (modify_ends fun _ => ⟨rfl, rfl⟩) fun _ _ => .pure trivial

theorem receiverType_ends (receiver : Option Expr) (written : Option String) :
    (receiverType receiver written).Ends context level 0 True fun _ => True :=
  get_ends.after fun _ _ => .pure trivial

theorem addTest_ends (test : Expr) (parts : List Nat) :
    (addTest context test parts).Ends context level 1 True fun _ => True := by
  rw [addTest]
  exact (addNode_ends _ _ _ _).before fun _ _ => (addEdges_ends _ _).after fun _ _ => .pure trivial

mutual

theorem lower_ends (environment : Environment) : (expr : Expr) → {level : Nat} →
    (lower context environment expr).Ends context level expr.size
      (level + expr.levels ≤ maxNesting) fun _ => True
  | .literal value, level => by
      rw [lower]
      exact (nested_ends fun _ => addNode_ends _ _ _ _).within (Nat.le_refl _)
        (iff_of_eq (and_true _))
  | .null, level => by
      rw [lower]
      exact (nested_ends fun _ => addNode_ends _ _ _ _).within (Nat.le_refl _)
        (iff_of_eq (and_true _))
  | .variable name, level => by
      rw [lower]
      exact (nested_ends fun _ => readVariable_ends _ _).within (Nat.le_refl _)
        (iff_of_eq (and_true _))
  | .call receiver written method arguments span, level => by
      rw [lower]
      refine (nested_ends fun shallow =>
        (lowerOption_ends environment receiver shallow).bind fun _ _ _ =>
        (lowerAll_ends environment arguments shallow).bindFree fun _ _ _ =>
        (receiverType_ends _ _).after fun _ _ =>
        (addNode_ends _ _ _ _).before fun _ _ =>
        (addEdges_ends _ _).after fun _ _ => .pure trivial).within ?_ ?_
      · rw [Expr.size]; omega
      · rw [Expr.levels]; omega
  | .construct className arguments span, level => by
      rw [lower]
      refine (nested_ends fun shallow =>
        (lowerAll_ends environment arguments shallow).bindFree fun _ _ _ =>
        (addNode_ends _ _ _ _).before fun _ _ =>
        (addEdges_ends _ _).after fun _ _ => .pure trivial).within ?_ ?_
      · rw [Expr.size]
      · rw [Expr.levels]; omega
  | .concat operands span, level => by
      rw [lower]
      refine (nested_ends fun shallow =>
        (lowerOperands_ends environment operands shallow 0 false).bindFree fun _ _ _ =>
        (addNode_ends _ _ _ _).before fun _ _ =>
        (addEdges_ends _ _).after fun _ _ => .pure trivial).within ?_ ?_
      · rw [Expr.size]
      · rw [Expr.levels]; omega
  | .not operand, level => by
      rw [lower]
      refine (nested_ends fun _ =>
        (lower_ends environment operand).bindFree fun _ _ _ =>
        addTest_ends _ _).within ?_ ?_
      · rw [Expr.size]
      · rw [Expr.levels]; omega
  | .and left right, level | .or left right, level | .compare _ left right, level => by
      rw [lower]
      refine (nested_ends fun _ =>
        (lower_ends environment left).bind fun _ _ _ =>
        (lower_ends environment right).bindFree fun _ _ _ =>
        addTest_ends _ _).within ?_ ?_
      · rw [Expr.size]; omega
      · rw [Expr.levels]; omega
  | .cast _ operand, level => by
      rw [lower]
      refine (nested_ends fun _ =>
        lower_ends environment operand).within ?_ ?_
      · rw [Expr.size]
      · rw [Expr.levels]; omega

-- No part is entered where there is none, so the level of the operands themselves must be within
-- the limit for the two sides to agree.
theorem lowerOption_ends (environment : Environment) : (expr : Option Expr) → {level : Nat} →
    level < maxNesting →
    (lowerOption context environment expr).Ends context (level + 1) (Expr.sizeOfOption expr)
      (level + 1 + Expr.levelsOfOption expr ≤ maxNesting) fun _ => True
  | none, level, shallow => by
      rw [lowerOption]
      exact Ends.fit (.pure trivial) shallow
  | some expr, level, shallow => by
      rw [lowerOption]
      exact (lower_ends environment expr).before fun _ _ => .pure trivial

theorem lowerAll_ends (environment : Environment) : (exprs : List Expr) → {level : Nat} →
    level < maxNesting →
    (lowerAll context environment exprs).Ends context (level + 1) (Expr.sizeOfAll exprs)
      (level + 1 + Expr.levelsOfAll exprs ≤ maxNesting) fun _ => True
  | [], level, shallow => by
      rw [lowerAll]
      exact Ends.fit (.pure trivial) shallow
  | expr :: rest, level, shallow => by
      rw [lowerAll]
      refine ((lower_ends environment expr).bind fun _ _ _ =>
        (lowerAll_ends environment rest shallow).before fun _ _ => .pure trivial).within ?_ ?_
      · rw [Expr.sizeOfAll]
      · rw [Expr.levelsOfAll]; omega

theorem lowerOperands_ends (environment : Environment) : (operands : List Expr) → {level : Nat} →
    level < maxNesting → (index : Nat) → (inQuery : Bool) →
    (lowerOperands context environment index inQuery operands).Ends context (level + 1)
      (Expr.sizeOfAll operands) (level + 1 + Expr.levelsOfAll operands ≤ maxNesting) fun _ => True
  | [], level, shallow, index, inQuery => by
      rw [lowerOperands]
      exact Ends.fit (.pure trivial) shallow
  | operand :: rest, level, shallow, index, inQuery => by
      rw [lowerOperands]
      refine ((lower_ends environment operand).bind fun _ _ _ =>
        (lowerOperands_ends environment rest shallow (index + 1) _).before fun _ _ =>
          .pure trivial).within ?_ ?_
      · rw [Expr.sizeOfAll]
      · rw [Expr.levelsOfAll]; omega

end

section Statements

variable {names : List String} {environment : Environment}

open Environment

/-- Names that each stand once in a list are no more than those of a list that has them all. -/
theorem length_filter_le (names : List String) {others : List String} (distinct : others.Nodup) :
    (others.filter (· ∈ names)).length ≤ names.length := by
  refine (List.subperm_of_subset (distinct.filter _) fun name member => ?_).length_le
  exact of_decide_eq_true (List.mem_filter.1 member).2

theorem refineAll_ends (guard : GuardCondition) (outcome : Bool) (subjects : List String)
    (among : environment.DefinesAmong names) :
    (refineAll context guard outcome subjects environment).Ends context level
      (subjects.filter (· ∈ names)).length True (DefinesAmong names) := by
  induction subjects generalizing environment with
  | nil => exact .pure among
  | cons subject subjects inductionHypothesis =>
      rw [refineAll]
      split
      · refine (inductionHypothesis among).grow ?_
        exact (List.sublist_cons_self subject subjects).filter _ |>.length_le
      · rename_i definition isDefined
        have member := among subject definition isDefined
        refine ((addNode_ends _ _ _ _).bindFree fun _ node _ => (addEdge_ends _ _ _).after fun _ _ =>
          inductionHypothesis (among.define member node)).grow ?_
        rw [List.filter_cons_of_pos (by simpa using member), List.length_cons, Nat.add_comm]

theorem refine_ends (guard : GuardCondition) (outcome : Bool)
    (among : environment.DefinesAmong names) :
    (refine context guard outcome environment).Ends context level names.length True
      (DefinesAmong names) :=
  (refineAll_ends guard outcome _ among).grow (length_filter_le names (Names.nodup_distinct _))

theorem addGuard_ends (environment : Environment) (test : Expr) (span : Span) :
    (addGuard context environment test span).Ends context level 0 True fun _ => True :=
  get_ends.after fun _ _ => .after (modify_ends fun _ => ⟨rfl, rfl⟩) fun _ _ => .pure trivial

theorem joinDefinition_ends (live : List Environment) (span : Span) (name : String) :
    (joinDefinition context live span name).Ends context level 1 True fun _ => True := by
  unfold joinDefinition
  split
  · exact .pure trivial
  · exact (addNode_ends _ _ _ _).before fun _ _ => (addEdges_ends _ _).after fun _ _ => .pure trivial

theorem joinDefinitions_ends (live : List Environment) (span : Span) (joined : List String) :
    (joinDefinitions context live span joined).Ends context level joined.length True fun map =>
      ∀ name node, map.get? name = some node → name ∈ joined := by
  induction joined with
  | nil => exact .pure fun _ _ => nofun
  | cons name joined inductionHypothesis =>
      rw [joinDefinitions]
      refine ((joinDefinition_ends _ _ _).bindFree fun _ _ _ =>
        inductionHypothesis.before fun map within => .pure ?_).grow ?_
      · intro other node isJoined
        rw [StringMap.get?_insert] at isJoined
        split at isJoined
        · rename_i same
          exact same ▸ List.mem_cons_self
        · exact List.mem_cons_of_mem _ (within other node isJoined)
      · rw [List.length_cons, Nat.add_comm]

theorem join_ends (environments : List Environment) (span : Span)
    (among : ∀ environment ∈ environments, environment.DefinesAmong names) (some : environments ≠ []) :
    (join context environments span).Ends context level names.length True (DefinesAmong names) := by
  unfold join
  split
  · rename_i dead
    refine .pure ?_
    cases environments with
    | nil => exact absurd rfl some
    | cons first environments => exact among first List.mem_cons_self
  · rename_i single isSingle
    have member : single ∈ environments :=
      List.mem_of_mem_filter (isSingle ▸ List.mem_singleton_self single)
    exact .pure (among single member)
  · rename_i first rest notSingle isLive
    have within : ∀ name ∈ StringMap.allNames ((first :: rest).map Environment.definitions),
        name ∈ names := by
      intro name member
      obtain ⟨map, isMap, node, defined⟩ := StringMap.mem_allNames.1 member
      obtain ⟨environment, live, rfl⟩ := List.mem_map.1 isMap
      exact among environment (List.mem_of_mem_filter (isLive ▸ live)) name node defined
    refine ((joinDefinitions_ends _ _ _).before fun map joined => .pure ?_).grow ?_
    · exact fun name node defined => within name (joined name node defined)
    · exact (List.subperm_of_subset (StringMap.nodup_allNames _) within).length_le

theorem assign_ends {name : String} (value : Expr) (span : Span)
    (among : environment.DefinesAmong names) (member : name ∈ names) :
    (assign context name value span environment).Ends context level (value.size + 1)
      (level + value.levels ≤ maxNesting) (DefinesAmong names) :=
  (lower_ends environment value).bindFree fun _ _ _ =>
    (addNode_ends _ _ _ _).before fun node _ => (addEdge_ends _ _ _).after fun _ _ =>
      .pure (among.define member node)

theorem lowerReturn_ends (value : Expr) (span : Span) (environment : Environment) :
    (lowerReturn context value span environment).Ends context level (value.size + 1)
      (level + value.levels ≤ maxNesting) fun _ => True := by
  refine (lower_ends environment value).bindFree fun _ _ _ => ?_
  split
  · exact (addNode_ends _ _ _ _).before fun _ _ => addEdge_ends _ _ _
  · exact .pure trivial

theorem addLoopNodes_ends (span : Span) {entry head : Environment} (written : List String)
    (among : entry.DefinesAmong names) (headAmong : head.DefinesAmong names) :
    (addLoopNodes context span entry written head).Ends context level
      (written.filter (· ∈ names)).length True fun output => output.2.DefinesAmong names := by
  induction written generalizing head with
  | nil => exact .pure headAmong
  | cons name written inductionHypothesis =>
      rw [addLoopNodes]
      split
      · refine (inductionHypothesis headAmong).grow ?_
        exact (List.sublist_cons_self name written).filter _ |>.length_le
      · rename_i definition isDefined
        have member := among name definition isDefined
        refine ((addNode_ends _ _ _ _).bindFree fun _ node _ => (addEdge_ends _ _ _).after fun _ _ =>
          (inductionHypothesis (headAmong.define member node)).before fun output holds => by
            cases output
            exact .pure holds).grow ?_
        rw [List.filter_cons_of_pos (by simpa using member), List.length_cons, Nat.add_comm]

theorem addBackEdges_ends (atEnd : Environment) (nodes : List (String × Nat)) :
    (addBackEdges atEnd nodes).Ends context level 0 True fun _ => True := by
  induction nodes with
  | nil => exact .pure trivial
  | cons first nodes inductionHypothesis =>
      rw [addBackEdges]
      split
      · split
        · exact inductionHypothesis
        · exact (addEdge_ends _ _ _).after fun _ _ => inductionHypothesis
      · exact inductionHypothesis

mutual

/-- A statement is built exactly if its deepest part is within the limit, as long as there is room. -/
theorem addStmt_ends : (stmt : Stmt) → {level : Nat} → {environment : Environment} →
    environment.DefinesAmong names → (∀ name ∈ stmt.writes, name ∈ names) →
    (addStmt context stmt environment).Ends context level (stmt.size names.length)
      (level + stmt.levels ≤ maxNesting) (DefinesAmong names)
  | .declare name typeName none span, level, environment, among, writes => by
      rw [addStmt]
      refine (nested_ends fun _ => (declareType_ends _ _).after fun _ _ =>
        .pure (among.forget name)).within (Nat.le_refl _) ?_
      rw [Stmt.levels, Expr.levelsOfOption, and_true]; rfl
  | .declare name typeName (some value) span, level, environment, among, writes => by
      rw [addStmt]
      refine (nested_ends fun _ => (declareType_ends _ _).after fun _ _ =>
        assign_ends value span among (writes name List.mem_cons_self)).within ?_ ?_
      · rw [Stmt.size]
      · rw [Stmt.levels, Expr.levelsOfOption]; omega
  | .assign target value span, level, environment, among, writes => by
      rw [addStmt]
      refine (nested_ends fun _ =>
        assign_ends value span among (writes target List.mem_cons_self)).within ?_ ?_
      · rw [Stmt.size]
      · rw [Stmt.levels]; omega
  | .evaluate expr span, level, environment, among, writes => by
      rw [addStmt]
      refine (nested_ends fun _ =>
        (lower_ends environment expr).before fun _ _ => .pure among).within ?_ ?_
      · rw [Stmt.size]
      · rw [Stmt.levels]; omega
  | .branch test accepted rejected span, level, environment, among, writes => by
      rw [Stmt.writes] at writes
      have acceptedWrites := fun name member => writes name (List.mem_append_left _ member)
      have rejectedWrites := fun name member => writes name (List.mem_append_right _ member)
      rw [addStmt]
      refine (nested_ends fun shallow =>
        (lower_ends environment test).bind fun _ _ _ =>
        (addGuard_ends environment test span).after fun guard _ =>
        (refine_ends guard true among).freeBind fun _ amongAccepted =>
        (addAll_ends accepted (Nat.succ_le_of_lt shallow) amongAccepted acceptedWrites).bind
          fun _ _ amongAfter =>
        (refine_ends guard false among).freeBind fun _ amongRejected =>
        (addOption_ends rejected (Nat.succ_le_of_lt shallow) amongRejected rejectedWrites).bindFree
          fun _ _ amongAfter' => join_ends _ span ?_ (List.cons_ne_nil _ _)).within ?_ ?_
      · simp [amongAfter, amongAfter']
      · rw [Stmt.size]; omega
      · rw [Stmt.levels]; omega
  | .loop test body span, level, environment, among, writes => by
      rw [Stmt.writes] at writes
      rw [addStmt]
      refine (nested_ends fun shallow =>
        (addLoopNodes_ends span (Stmt.assigned body) among (among.withAliases _)).freeBind
          fun ⟨nodes, head⟩ headAmong => (lower_ends head test).bind fun _ _ _ =>
        (addGuard_ends head test span).after fun guard _ =>
        (refine_ends guard true headAmong).freeBind fun _ amongAccepted =>
        (addAll_ends body (Nat.succ_le_of_lt shallow) amongAccepted writes).bindFree fun _ atEnd _ =>
        .ite ((addBackEdges_ends atEnd nodes).after fun _ _ => refine_ends guard false headAmong)
          (refine_ends guard false headAmong)).within ?_ ?_
      · -- The head of the loop gets a node for each variable that the body writes.
        have written := length_filter_le names (Names.nodup_distinct (Stmt.writesOfAll body))
        rw [Stmt.size, Stmt.assigned]; omega
      · rw [Stmt.levels]; omega
  | .block body, level, environment, among, writes => by
      rw [Stmt.writes] at writes
      rw [addStmt]
      refine (nested_ends fun shallow =>
        addAll_ends body (Nat.succ_le_of_lt shallow) among writes).within ?_ ?_
      · rw [Stmt.size]
      · rw [Stmt.levels]; omega
  | .attempt body handlers final, level, environment, among, writes => by
      rw [Stmt.writes] at writes
      have bodyWrites := fun name member =>
        writes name (List.mem_append_left _ (List.mem_append_left _ member))
      have handlerWrites := fun name member =>
        writes name (List.mem_append_left _ (List.mem_append_right _ member))
      have finalWrites := fun name member => writes name (List.mem_append_right _ member)
      rw [addStmt]
      refine (nested_ends fun shallow =>
        (addAll_ends body (Nat.succ_le_of_lt shallow) among bodyWrites).bind fun _ _ amongAfter =>
        (join_ends _ .zero ?_ (List.cons_ne_nil _ _)).freeBind fun _ amongStart =>
        (addHandlers_ends handlers (Nat.succ_le_of_lt shallow) amongStart handlerWrites).bind
          fun _ _ amongEnds =>
        (join_ends _ .zero ?_ (List.cons_ne_nil _ _)).freeBind fun _ amongJoined =>
        addOption_ends final (Nat.succ_le_of_lt shallow) amongJoined finalWrites).within ?_ ?_
      · simp [among, amongAfter]
      · exact List.forall_mem_cons.2 ⟨amongAfter, amongEnds⟩
      · rw [Stmt.size]; omega
      · rw [Stmt.levels]; omega
  | .return none span, level, environment, among, writes => by
      rw [addStmt]
      refine (nested_ends fun _ => .pure among.unreachable).within (Nat.le_refl _) ?_
      rw [Stmt.levels, Expr.levelsOfOption, and_true]; rfl
  | .return (some value) span, level, environment, among, writes => by
      rw [addStmt]
      refine (nested_ends fun _ =>
        (lowerReturn_ends value span environment).before fun _ _ =>
        .pure among.unreachable).within ?_ ?_
      · rw [Stmt.size]
      · rw [Stmt.levels, Expr.levelsOfOption]; omega

-- As with operands: where there are no statements, only their own level can be too deep.
theorem addAll_ends : (stmts : List Stmt) → {level : Nat} → {environment : Environment} →
    level ≤ maxNesting → environment.DefinesAmong names →
    (∀ name ∈ Stmt.writesOfAll stmts, name ∈ names) →
    (addAll context stmts environment).Ends context level (Stmt.sizeOfAll names.length stmts)
      (level + Stmt.levelsOfAll stmts ≤ maxNesting) (DefinesAmong names)
  | [], level, environment, within, among, writes => by
      rw [addAll]
      exact Ends.fit (.pure among) within
  | stmt :: rest, level, environment, within, among, writes => by
      rw [Stmt.writesOfAll] at writes
      rw [addAll]
      refine ((addStmt_ends stmt among fun name member =>
        writes name (List.mem_append_left _ member)).bind fun _ _ amongAfter =>
        addAll_ends rest within amongAfter fun name member =>
          writes name (List.mem_append_right _ member)).within ?_ ?_
      · rw [Stmt.sizeOfAll]
      · rw [Stmt.levelsOfAll]; omega

theorem addOption_ends : (stmts : Option (List Stmt)) → {level : Nat} → {environment : Environment} →
    level ≤ maxNesting → environment.DefinesAmong names →
    (∀ name ∈ Stmt.writesOfOption stmts, name ∈ names) →
    (addOption context stmts environment).Ends context level
      (Stmt.sizeOfOption names.length stmts)
      (level + Stmt.levelsOfOption stmts ≤ maxNesting) (DefinesAmong names)
  | none, level, environment, within, among, writes => by
      rw [addOption]
      exact Ends.fit (.pure among) within
  | some stmts, level, environment, within, among, writes => by
      rw [addOption]
      exact addAll_ends stmts within among writes

theorem addHandlers_ends : (handlers : List Handler) → {level : Nat} → {start : Environment} →
    level ≤ maxNesting → start.DefinesAmong names →
    (∀ name ∈ Stmt.writesOfHandlers handlers, name ∈ names) →
    (addHandlers context start handlers).Ends context level
      (Stmt.sizeOfHandlers names.length handlers)
      (level + Stmt.levelsOfHandlers handlers ≤ maxNesting)
      fun ends => ∀ atEnd ∈ ends, atEnd.DefinesAmong names
  | [], level, start, within, among, writes => by
      rw [addHandlers]
      exact Ends.fit (.pure fun _ => nofun) within
  | ⟨parameter, exceptionType, body⟩ :: rest, level, start, within, among, writes => by
      rw [Stmt.writesOfHandlers] at writes
      unfold addHandlers
      have bodyWrites := fun name member => writes name (List.mem_append_left _ member)
      have laterWrites := fun name member => writes name (List.mem_append_right _ member)
      have handle {inside : Environment} (amongInside : inside.DefinesAmong names) :
          Ends (do
            let atEnd ← addAll context body inside
            return atEnd :: (← addHandlers context start rest)) context level
          (Stmt.sizeOfAll names.length body + Stmt.sizeOfHandlers names.length rest)
          (level + Stmt.levelsOfAll body ≤ maxNesting ∧
            level + Stmt.levelsOfHandlers rest ≤ maxNesting)
          fun ends => ∀ atEnd ∈ ends, atEnd.DefinesAmong names :=
        (addAll_ends body within amongInside bodyWrites).bind fun _ _ amongEnd =>
          (addHandlers_ends rest within among laterWrites).before fun _ amongEnds =>
            .pure (List.forall_mem_cons.2 ⟨amongEnd, amongEnds⟩)
      cases parameter with
      | none =>
          refine (handle among).within ?_ ?_
          · rw [Stmt.sizeOfHandlers]
          · rw [Stmt.levelsOfHandlers]; omega
      | some name =>
          refine ((declareType_ends _ _).after fun _ _ => handle (among.forget name)).within
            ?_ ?_
          · rw [Stmt.sizeOfHandlers]
          · rw [Stmt.levelsOfHandlers]; omega

end

end Statements

/-! Every step that ends has given back the levels that it took, so what stands side by side is built
at one level, however much of it there is. -/

section Levels

variable {environment : Environment}

/-- Where a step ends, the level is the same as before. -/
def GivesBack (step : Build First) : Prop :=
  ∀ draft value final, step.run draft = .ok (value, final) → final.depth = draft.depth

theorem Ends.givesBack {step : Build First} {room : Nat} {fits : Nat → Prop} {good : First → Prop}
    (ends : ∀ level, step.Ends context level room (fits level) good) : step.GivesBack := by
  intro draft value final stops
  obtain ⟨-, -, -, leaves⟩ := (ends draft.depth).result draft value final rfl stops
  exact leaves

theorem GivesBack.pure (value : First) : (Pure.pure value : Build First).GivesBack := by
  intro draft result final stops
  rw [(pure_ok.1 stops).2]

theorem GivesBack.bind {first : Build First} {next : First → Build Second}
    (givesBack : first.GivesBack) (then' : ∀ value, (next value).GivesBack) :
    (first >>= next).GivesBack := by
  intro draft value final stops
  obtain ⟨middle, between, firstStops, nextStops⟩ := bind_ok.1 stops
  exact (then' middle between value final nextStops).trans
    (givesBack draft middle between firstStops)

/-- A step that gives its levels back ends one level deeper as it does there, but for the level. -/
theorem nested_ok_of_givesBack {step : Build First} (givesBack : step.GivesBack)
    {draft final : Draft} {value : First} :
    (nested context step).run draft = .ok (value, final) ↔
      draft.depth < maxNesting ∧ ∃ between,
        step.run { draft with depth := draft.depth + 1 } = .ok (value, between) ∧
        final = { between with depth := draft.depth } := by
  rw [nested_ok]
  refine and_congr_right fun _ => exists_congr fun between => and_congr_right fun stops => ?_
  have leaves : between.depth - 1 = draft.depth :=
    congrArg (· - 1) (givesBack _ value between stops)
  rw [leaves]

theorem addNode_givesBack (kind : NodeKind) (text : String) (span : Span)
    (variableName : Option String) : (addNode context kind text span variableName).GivesBack :=
  Ends.givesBack fun _ => addNode_ends kind text span variableName

theorem addEdges_givesBack (target : Nat) (sources : List (Nat × EdgeKind)) :
    (addEdges target sources).GivesBack := by
  induction sources with
  | nil => exact .pure ()
  | cons source sources inductionHypothesis =>
      refine GivesBack.bind (fun draft value final stops => ?_) fun _ => inductionHypothesis
      obtain rfl := addEdge_ok.1 stops
      rfl

theorem declareType_givesBack (name : String) (typeName : Option String) :
    (declareType name typeName).GivesBack := by
  intro draft value final stops
  obtain ⟨declaredTypes, rfl⟩ := declareType_ok stops
  rfl

theorem lower_givesBack (expr : Expr) : (lower context environment expr).GivesBack :=
  Ends.givesBack fun _ => lower_ends environment expr

theorem lowerOperands_givesBack (operands : List Expr) (index : Nat) (inQuery : Bool) :
    (lowerOperands context environment index inQuery operands).GivesBack := by
  induction operands generalizing index inQuery with
  | nil => exact .pure []
  | cons operand operands inductionHypothesis =>
      rw [lowerOperands]
      exact (lower_givesBack operand).bind fun _ => (inductionHypothesis _ _).bind fun _ => .pure _

theorem lowerReturn_givesBack (value : Expr) (span : Span) :
    (lowerReturn context value span environment).GivesBack :=
  Ends.givesBack fun _ => lowerReturn_ends value span environment

theorem addStmt_givesBack (stmt : Stmt) : (addStmt context stmt environment).GivesBack := by
  have among : environment.DefinesAmong (environment.definitions.names ++ stmt.writes) :=
    fun _ node defined => List.mem_append_left _ (StringMap.mem_names.2 ⟨node, defined⟩)
  exact Ends.givesBack fun _ => addStmt_ends stmt among fun _ => List.mem_append_right _

theorem addAll_givesBack (stmts : List Stmt) : (addAll context stmts environment).GivesBack := by
  induction stmts generalizing environment with
  | nil => exact .pure environment
  | cons stmt stmts inductionHypothesis =>
      rw [addAll]
      exact (addStmt_givesBack stmt).bind fun _ => inductionHypothesis

theorem addParameters_givesBack (parameters : List Parameter) :
    (addParameters context parameters environment).GivesBack := by
  induction parameters generalizing environment with
  | nil => exact .pure environment
  | cons parameter parameters inductionHypothesis =>
      intro draft after final stops
      rw [addParameters_cons (addParameters_ok stops)] at stops
      refine GivesBack.bind (addNode_givesBack _ _ _ _) (fun _ => ?_) draft after final stops
      exact (declareType_givesBack _ _).bind fun _ => inductionHypothesis

/-- Behind a whole procedure no level is taken. -/
theorem addProcedure_givesBack {after : Environment} {final : Draft}
    (stops : (addProcedure context).run .empty = .ok (after, final)) : final.depth = 0 :=
  GivesBack.bind (addParameters_givesBack _) (fun _ => addAll_givesBack _) .empty after final stops

end Levels

end Build

end ForwardTaint
