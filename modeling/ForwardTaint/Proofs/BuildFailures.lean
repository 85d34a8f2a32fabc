import ForwardTaint.Proofs.ConstructionEnds

/-!
Which procedures have no flow graph.  A parameter that repeats an earlier name is found first, then
the first part that lies too deep; nothing else but the number of nodes keeps a procedure from
getting a graph.
-/

namespace ForwardTaint

/-- The name is the first one of the names that stands among those before it. -/
def FirstRepeats (names : List String) (name : String) : Prop :=
  ∃ before after, names = before ++ name :: after ∧ before.Nodup ∧ name ∈ before

namespace FirstRepeats

variable {names : List String} {name other : String}

theorem not_nodup (repeats : FirstRepeats names name) : ¬names.Nodup := by
  obtain ⟨before, after, rfl, -, isOld⟩ := repeats
  exact fun distinct => List.disjoint_of_nodup_append distinct isOld List.mem_cons_self

/-- The first repeat of one split is not before that of another. -/
theorem eq_of_append {before after before' after' : List String}
    (same : before ++ name :: after = before' ++ other :: after') (distinct : before'.Nodup)
    (isOld : name ∈ before) (longer : before.length ≤ before'.length) : name = other := by
  rcases List.append_eq_append_iff.1 same with ⟨between, rfl, rest⟩ | ⟨between, rfl, rest⟩
  · cases between with
    | nil => exact (List.cons.inj rest).1
    | cons first between =>
        obtain rfl := (List.cons.inj rest).1
        exact absurd List.mem_cons_self (List.disjoint_of_nodup_append distinct isOld)
  · rw [List.length_append] at longer
    obtain rfl : between = [] := List.length_eq_zero_iff.1 (by omega)
    exact (List.cons.inj rest).1.symm

theorem unique (repeats : FirstRepeats names name) (repeats' : FirstRepeats names other) :
    name = other := by
  obtain ⟨before, after, rfl, distinct, isOld⟩ := repeats
  obtain ⟨before', after', same, distinct', isOld'⟩ := repeats'
  rcases Nat.le_total before.length before'.length with longer | longer
  · exact eq_of_append same distinct' isOld longer
  · exact (eq_of_append same.symm distinct isOld' longer).symm

theorem append (repeats : FirstRepeats names name) (more : List String) :
    FirstRepeats (names ++ more) name := by
  obtain ⟨before, after, rfl, distinct, isOld⟩ := repeats
  exact ⟨before, after ++ more, by rw [List.append_assoc, List.cons_append], distinct, isOld⟩

/-- Unless all names differ, one of them is the first to repeat another. -/
theorem exists_of_not_nodup (names : List String) (repeated : ¬names.Nodup) :
    ∃ name, FirstRepeats names name := by
  -- From the end, as what comes later does not change which name is the first to repeat one.
  induction names using List.reverseRecOn with
  | nil => exact absurd .nil repeated
  | append_singleton names name inductionHypothesis =>
      by_cases distinct : names.Nodup
      · refine ⟨name, names, [], rfl, distinct, ?_⟩
        by_contra isNew
        exact repeated (List.nodup_append_comm.1 (List.nodup_cons.2 ⟨isNew, distinct⟩))
      · obtain ⟨first, repeats⟩ := inductionHypothesis distinct
        exact ⟨first, repeats.append [name]⟩

end FirstRepeats

namespace Environment

variable {names : List String} {environment : Environment}

/-- The names and no others are defined. -/
def DefinesExactly (names : List String) (environment : Environment) : Prop :=
  ∀ name, environment.definitions.contains name = true ↔ name ∈ names

theorem definesExactly_entry : entry.DefinesExactly [] :=
  fun _ => iff_of_false Bool.false_ne_true List.not_mem_nil

theorem DefinesExactly.define (exactly : environment.DefinesExactly names) (name : String)
    (node : Nat) : (environment.define name node).DefinesExactly (names ++ [name]) := by
  intro other
  rw [Environment.define, StringMap.contains, StringMap.get?_insert, List.mem_append,
    List.mem_singleton, ← exactly other, StringMap.contains]
  split <;> simp [*]

theorem DefinesExactly.among (exactly : environment.DefinesExactly names) :
    environment.DefinesAmong names := by
  intro name node defined
  rw [← exactly name, StringMap.contains, defined, Option.isSome_some]

theorem DefinesAmong.mono (among : environment.DefinesAmong names) {more : List String}
    (subset : names ⊆ more) : environment.DefinesAmong more :=
  fun name node defined => subset (among name node defined)

end Environment

namespace Build

variable {context : BuildContext} {level : Nat} {environment : Environment}

open Environment

-- Below, the names before are those of the parameters that are added already: each step of the
-- induction moves one name over, and the definitions stay exactly those of the names before.

/-- Parameters with different names are all added, as long as there is room. -/
theorem addParameters_ends {before : List String} (parameters : List Parameter)
    (exactly : environment.DefinesExactly before)
    (distinct : (before ++ parameters.map Parameter.name).Nodup) :
    (addParameters context parameters environment).Ends context level parameters.length True
      (DefinesAmong (before ++ parameters.map Parameter.name)) := by
  induction parameters generalizing before environment with
  | nil => exact .pure (by rw [List.map_nil, List.append_nil]; exact exactly.among)
  | cons parameter parameters inductionHypothesis =>
      rw [List.map_cons, List.append_cons] at distinct ⊢
      have isNew : environment.definitions.contains parameter.name = false := by
        rw [Bool.eq_false_iff, Ne, exactly]
        exact fun isOld => List.disjoint_of_nodup_append
          (List.nodup_append.1 distinct).1 isOld List.mem_cons_self
      rw [addParameters_cons isNew]
      refine ((addNode_ends _ _ _ _).freeBind fun node _ => (declareType_ends _ _).after fun _ _ =>
        inductionHypothesis (exactly.define _ node) distinct).grow ?_
      rw [List.length_cons, Nat.add_comm]

/-- The first parameter that repeats an earlier name stops the construction, unless there is no room
for those before it. -/
theorem addParameters_repeats {before : List String} (parameters : List Parameter)
    (exactly : environment.DefinesExactly before) (distinct : before.Nodup) {name : String}
    (repeats : FirstRepeats (before ++ parameters.map Parameter.name) name) (draft : Draft) :
    (addParameters context parameters environment).run draft =
        .error (.duplicateParameter context.procedure.name name) ∨
      (addParameters context parameters environment).run draft =
        .error (.nodeLimit context.procedure.name) ∧
      maxNodes < draft.nodes.size + parameters.length := by
  induction parameters generalizing before environment draft with
  | nil => exact absurd distinct (by simpa using repeats.not_nodup)
  | cons parameter parameters inductionHypothesis =>
      cases isOld : environment.definitions.contains parameter.name with
      | true =>
          have first : FirstRepeats (before ++ (parameter :: parameters).map Parameter.name)
              parameter.name :=
            ⟨before, parameters.map Parameter.name, rfl, distinct, (exactly _).1 isOld⟩
          rw [repeats.unique first, addParameters, isOld, if_pos rfl]
          exact .inl rfl
      | false =>
          have isNew : parameter.name ∉ before := by rw [← exactly, isOld]; exact Bool.false_ne_true
          rw [List.map_cons, List.append_cons] at repeats
          rw [addParameters_cons isOld, List.length_cons]
          -- The node of the parameter may be the one for which there is no room.
          have ends : (addNode context (parameterKind context parameter)
              (parameter.typeName ++ " " ++ parameter.name) context.procedure.span
              (some parameter.name)).Ends context draft.depth 1 True fun _ => True :=
            addNode_ends _ _ _ _
          cases added : (addNode context (parameterKind context parameter)
              (parameter.typeName ++ " " ++ parameter.name) context.procedure.span
              (some parameter.name)).run draft with
          | error error =>
              rcases ends.failure draft error rfl added with ⟨-, free⟩ | ⟨rfl, full⟩
              · exact absurd trivial free
              · exact .inr ⟨bind_error.2 (.inl added), by omega⟩
          | ok output =>
              obtain ⟨node, between⟩ := output
              obtain ⟨-, -, grown, -⟩ := ends.result draft node between rfl added
              have distinct' : (before ++ [parameter.name]).Nodup :=
                List.nodup_append_comm.1 (List.nodup_cons.2 ⟨isNew, distinct⟩)
              let typed : Draft := { between with
                declaredTypes := between.declaredTypes.insert parameter.name parameter.typeName }
              rcases inductionHypothesis (exactly.define parameter.name node) distinct' repeats
                typed with later | ⟨later, full⟩
              · exact .inl (bind_error.2 (.inr ⟨node, between, added, later⟩))
              · refine .inr ⟨bind_error.2 (.inr ⟨node, between, added, later⟩), ?_⟩
                dsimp only [typed] at full
                omega

end Build

namespace Procedure

def parameterNames (procedure : Procedure) : List String :=
  procedure.parameters.map Parameter.name

/-- The names that can have a definition somewhere in the procedure. -/
def names (procedure : Procedure) : List String :=
  procedure.parameterNames ++ Stmt.writesOfAll procedure.body

/-- The greatest number of nodes of the graph of a procedure. -/
def size (procedure : Procedure) : Nat :=
  procedure.parameters.length + Stmt.sizeOfAll procedure.names.length procedure.body

end Procedure

namespace Build

variable {context : BuildContext}

open Environment

theorem addProcedure_ends (distinct : context.procedure.parameterNames.Nodup) :
    (addProcedure context).Ends context 0 context.procedure.size
      (Stmt.levelsOfAll context.procedure.body ≤ maxNesting) fun _ => True := by
  have parameters : (addParameters context context.procedure.parameters .entry).Ends context 0
      context.procedure.parameters.length True (DefinesAmong context.procedure.names) :=
    (addParameters_ends _ definesExactly_entry distinct).mono (Nat.le_refl _) Iff.rfl
      fun _ among => among.mono (List.subset_append_left _ _)
  have body {start : Environment} (among : start.DefinesAmong context.procedure.names) :=
    (addAll_ends context.procedure.body (Nat.zero_le maxNesting) among fun name =>
      List.mem_append_right _ : Ends _ context 0 _ _ _)
  refine (parameters.freeBind fun start among => body among).mono (Nat.le_refl _) ?_ fun _ _ =>
    trivial
  rw [Nat.zero_add]

theorem addProcedure_repeats {name : String}
    (repeats : FirstRepeats context.procedure.parameterNames name) :
    (addProcedure context).run .empty =
        .error (.duplicateParameter context.procedure.name name) ∨
      (addProcedure context).run .empty = .error (.nodeLimit context.procedure.name) ∧
      maxNodes < context.procedure.size := by
  rcases addParameters_repeats _ definesExactly_entry .nil repeats .empty with
    fails | ⟨fails, full⟩
  · exact .inl (bind_error.2 (.inl fails))
  · rw [Draft.empty, Array.size_empty, Nat.zero_add] at full
    exact .inr ⟨bind_error.2 (.inl fails), Nat.lt_of_lt_of_le full (Nat.le_add_right _ _)⟩

end Build

namespace FlowGraph

variable {catalog : Catalog} {unitConstants : StringMap String} {procedure : Procedure}

theorem build_error {error : BuildError} : build catalog unitConstants procedure = .error error ↔
    (Build.addProcedure ⟨catalog, unitConstants, procedure⟩).run .empty = .error error := by
  unfold build
  split <;> simp_all

theorem build_of_repeats {name : String} (repeats : FirstRepeats procedure.parameterNames name) :
    build catalog unitConstants procedure = .error (.duplicateParameter procedure.name name) ∨
      build catalog unitConstants procedure = .error (.nodeLimit procedure.name) ∧
      maxNodes < procedure.size := by
  rw [build_error, build_error]
  exact Build.addProcedure_repeats repeats

theorem build_of_distinct (distinct : procedure.parameterNames.Nodup) :
    ((∃ graph, build catalog unitConstants procedure = .ok graph) ∧
        Stmt.levelsOfAll procedure.body ≤ maxNesting) ∨
      (build catalog unitConstants procedure = .error (.nestingLimit procedure.name) ∧
        maxNesting < Stmt.levelsOfAll procedure.body) ∨
      build catalog unitConstants procedure = .error (.nodeLimit procedure.name) ∧
        maxNodes < procedure.size := by
  have ends : (Build.addProcedure ⟨catalog, unitConstants, procedure⟩).Ends _ 0 _ _ _ :=
    Build.addProcedure_ends distinct
  cases built : build catalog unitConstants procedure with
  | ok graph =>
      obtain ⟨environment, draft, stops, -⟩ := build_ok.1 built
      exact .inl ⟨⟨graph, rfl⟩, (ends.result _ _ _ rfl stops).1⟩
  | error error =>
      rcases ends.failure _ _ rfl (build_error.1 built) with ⟨rfl, deep⟩ | ⟨rfl, full⟩
      · exact .inr (.inl ⟨rfl, Nat.lt_of_not_le deep⟩)
      · rw [Draft.empty, Array.size_empty, Nat.zero_add] at full
        exact .inr (.inr ⟨rfl, full⟩)

/-- Where there is room for its nodes, a procedure is kept from a graph by a parameter that repeats
an earlier name, else by a part that lies too deep, and by nothing else. -/
theorem build_fails_exactly (catalog : Catalog) (unitConstants : StringMap String)
    (procedure : Procedure) :
    (procedure.size ≤ 200000 →
      build catalog unitConstants procedure ≠ .error (.nodeLimit procedure.name)) ∧
    (build catalog unitConstants procedure ≠ .error (.nodeLimit procedure.name) →
      (∀ name, FirstRepeats procedure.parameterNames name →
        build catalog unitConstants procedure =
          .error (.duplicateParameter procedure.name name)) ∧
      ((¬∃ name, FirstRepeats procedure.parameterNames name) →
        (build catalog unitConstants procedure = .error (.nestingLimit procedure.name) ↔
          ∃ depth part, CodePart.LiesAt procedure.body depth part ∧ 256 < depth) ∧
        ((¬∃ depth part, CodePart.LiesAt procedure.body depth part ∧ 256 < depth) →
          ∃ graph, build catalog unitConstants procedure = .ok graph))) := by
  refine ⟨fun small full => ?_, fun room => ⟨fun name repeats => ?_, fun noRepeat => ?_⟩⟩
  · by_cases distinct : procedure.parameterNames.Nodup
    · rcases build_of_distinct distinct with ⟨⟨graph, built⟩, -⟩ | ⟨deep, -⟩ | ⟨-, large⟩
      · exact nomatch full.symm.trans built
      · exact nomatch full.symm.trans deep
      · exact absurd small (Nat.not_le.2 large)
    · obtain ⟨name, repeats⟩ := FirstRepeats.exists_of_not_nodup _ distinct
      rcases build_of_repeats repeats with duplicate | ⟨-, large⟩
      · exact nomatch full.symm.trans duplicate
      · exact absurd small (Nat.not_le.2 large)
  · exact (build_of_repeats repeats).resolve_right fun full => room full.1
  · have distinct : procedure.parameterNames.Nodup := by
      by_contra repeated
      exact noRepeat (FirstRepeats.exists_of_not_nodup _ repeated)
    rw [CodePart.exists_liesAt_iff]
    rcases build_of_distinct distinct with ⟨⟨graph, built⟩, fits⟩ | ⟨fails, deep⟩ | ⟨full, -⟩
    · exact ⟨iff_of_false (by rw [built]; exact nofun) (Nat.not_lt.2 fits), fun _ => ⟨graph, built⟩⟩
    · exact ⟨iff_of_true fails deep, fun fits => absurd deep fits⟩
    · exact absurd full room

end FlowGraph

namespace TypeCasts

/-- The null reference, cast so many times. -/
def nested (count : Nat) : Expr := Nat.repeat (Expr.cast "String") count .null

def procedure (count : Nat) : Procedure :=
  { Procedure.named "widen" with body := [.evaluate (nested count) .zero] }

/-- The third parameter is the first to repeat a name, that of the second. -/
def repeated : Procedure :=
  { Procedure.named "widen" with
    parameters := ["path", "mode", "mode", "path"].map fun name => ⟨name, "String", []⟩ }

@[simp] theorem levels_nested (count : Nat) : (nested count).levels = count + 1 := by
  induction count with
  | zero => rfl
  | succ count inductionHypothesis => exact congrArg (· + 1) inductionHypothesis

@[simp] theorem size_nested (count : Nat) : (nested count).size = 1 := by
  induction count with
  | zero => rfl
  | succ count inductionHypothesis => exact inductionHypothesis

theorem levels_body (count : Nat) : Stmt.levelsOfAll (procedure count).body = count + 2 := by
  simp [procedure, Stmt.levelsOfAll, Stmt.levels]

theorem size_procedure (count : Nat) : (procedure count).size = 1 := by
  simp [procedure, Procedure.size, Procedure.named, Stmt.sizeOfAll, Stmt.size]

theorem not_firstRepeats (count : Nat) :
    ¬∃ name, FirstRepeats (procedure count).parameterNames name := by
  rintro ⟨name, repeats⟩
  exact repeats.not_nodup .nil

end TypeCasts

namespace FlowGraph

open TypeCasts

/-- The statement, its casts and the null reference are the levels: 256 of them are still built. -/
theorem build_fails_exactly_typeCasts :
    (∃ graph, build DecodingLoop.catalog .empty (procedure 254) = .ok graph) ∧
      build DecodingLoop.catalog .empty (procedure 255) = .error (.nestingLimit "widen") ∧
      build DecodingLoop.catalog .empty repeated = .error (.duplicateParameter "widen" "mode") := by
  refine ⟨?_, ?_, ?_⟩
  · obtain ⟨small, fails⟩ := build_fails_exactly DecodingLoop.catalog .empty (procedure 254)
    refine ((fails (small (by rw [size_procedure]; decide))).2 (not_firstRepeats 254)).2 ?_
    rw [CodePart.exists_liesAt_iff, levels_body]
    decide
  · obtain ⟨small, fails⟩ := build_fails_exactly DecodingLoop.catalog .empty (procedure 255)
    refine ((fails (small (by rw [size_procedure]; decide))).2 (not_firstRepeats 255)).1.2 ?_
    rw [CodePart.exists_liesAt_iff, levels_body]
    decide
  · obtain ⟨small, fails⟩ := build_fails_exactly DecodingLoop.catalog .empty repeated
    exact (fails (small (by decide))).1 "mode"
      ⟨["path", "mode"], ["path"], rfl, by decide, by decide⟩

end FlowGraph

end ForwardTaint
