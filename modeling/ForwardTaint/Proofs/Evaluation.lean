import ForwardTaint.Guard.Alias

/-!
The values of expressions while a procedure runs.  What a call, a construction or a concatenation
answers is a fixed function of the values it is given; whatever has no value throws.
-/

namespace ForwardTaint

/-- A value of the analyzed language. -/
inductive Value where
  | null
  | truth (value : Bool)
  | text (value : String)
  | object (identity : Nat)
  deriving DecidableEq

/-- The truth value that a value is. -/
def Value.truth? : Value → Option Bool
  | .truth value => some value
  | _ => none

/-- The values of all variables. -/
abbrev Store : Type := String → Value

/-- The store after a variable is given a value. -/
def Store.set (store : Store) (name : String) (value : Value) : Store :=
  fun other => if other = name then value else store other

/-- What is not written in the analyzed text: the answers of calls, constructions and
concatenations, and which values that are not null count as the same.  A call is known by its
receiver's value, the type and the method written, and its arguments. -/
structure Language where
  call : Option Value → Option String → String → List Value → Option Value
  construct : String → List Value → Option Value
  concat : List Value → Option Value
  same : Value → Value → Bool

namespace Language

/-- The outcome of a comparison; null is the same as null only. -/
def compared (language : Language) (comparison : Comparison) (left right : Value) : Bool :=
  let alike := if left = .null ∨ right = .null then decide (left = right)
    else language.same left right
  alike == (comparison == .equal)

mutual

/-- The value of an expression; the right part of a conjunction or disjunction counts only where the
left one leaves it open. -/
def eval (language : Language) (store : Store) : Expr → Option Value
  | .literal value => some (.text value)
  | .null => some .null
  | .variable name => some (store name)
  | .call receiver written method arguments _ =>
      (language.evalReceiver store receiver).bind fun receiver =>
        (language.evalAll store arguments).bind (language.call receiver written method)
  | .construct className arguments _ =>
      (language.evalAll store arguments).bind (language.construct className)
  | .concat operands _ => (language.evalAll store operands).bind language.concat
  | .not operand =>
      ((language.eval store operand).bind Value.truth?).map fun truth => .truth !truth
  | .and left right =>
      ((language.eval store left).bind Value.truth?).bind fun truth =>
        if truth then ((language.eval store right).bind Value.truth?).map .truth
        else some (.truth false)
  | .or left right =>
      ((language.eval store left).bind Value.truth?).bind fun truth =>
        if truth then some (.truth true)
        else ((language.eval store right).bind Value.truth?).map .truth
  | .compare comparison left right =>
      (language.eval store left).bind fun left =>
        (language.eval store right).map fun right =>
          .truth (language.compared comparison left right)
  | .cast _ operand => language.eval store operand

/-- The value of a receiver, if there is one. -/
def evalReceiver (language : Language) (store : Store) : Option Expr → Option (Option Value)
  | none => some none
  | some receiver => (language.eval store receiver).map some

/-- The values of expressions. -/
def evalAll (language : Language) (store : Store) : List Expr → Option (List Value)
  | [] => some []
  | expr :: rest =>
      (language.eval store expr).bind fun value => (language.evalAll store rest).map (value :: ·)

end

/-- The outcome of a test. -/
def test (language : Language) (store : Store) (expr : Expr) : Option Bool :=
  (language.eval store expr).bind Value.truth?

variable {language : Language} {first second : Store}

/-- The outcome of a test is the truth value that the test has. -/
theorem test_eq_some_iff {store : Store} {expr : Expr} {outcome : Bool} :
    language.test store expr = some outcome ↔
      language.eval store expr = some (.truth outcome) := by
  rw [test, Option.bind_eq_some_iff]
  constructor
  · intro ⟨value, evaluated, isOutcome⟩
    cases value with
    | truth => rw [evaluated, Option.some.inj isOutcome]
    | null => exact nomatch isOutcome
    | text => exact nomatch isOutcome
    | object => exact nomatch isOutcome
  · intro evaluated
    exact ⟨.truth outcome, evaluated, rfl⟩

/-- A negation has the other outcome. -/
theorem eval_not_iff {store : Store} {operand : Expr} {outcome : Bool} :
    language.eval store (.not operand) = some (.truth outcome) ↔
      language.eval store operand = some (.truth !outcome) := by
  rw [eval, ← test, Option.map_eq_some_iff, ← test_eq_some_iff]
  constructor
  · intro ⟨truth, evaluated, isOutcome⟩
    rw [evaluated, ← Value.truth.inj isOutcome, Bool.not_not]
  · intro evaluated
    exact ⟨!outcome, evaluated, by rw [Bool.not_not]⟩

/-- A conjunction is true where both parts are. -/
theorem eval_and_iff {store : Store} {left right : Expr} :
    language.eval store (.and left right) = some (.truth true) ↔
      language.eval store left = some (.truth true) ∧
        language.eval store right = some (.truth true) := by
  rw [eval, ← test, ← test, ← test_eq_some_iff, ← test_eq_some_iff]
  cases language.test store left with
  | none => simp
  | some truth => cases truth <;> simp

/-- A disjunction is false where both parts are. -/
theorem eval_or_iff {store : Store} {left right : Expr} :
    language.eval store (.or left right) = some (.truth false) ↔
      language.eval store left = some (.truth false) ∧
        language.eval store right = some (.truth false) := by
  rw [eval, ← test, ← test, ← test_eq_some_iff, ← test_eq_some_iff]
  cases language.test store left with
  | none => simp
  | some truth => cases truth <;> simp

/-- A comparison with null asks whether the other side is null. -/
theorem compared_null (comparison : Comparison) (value : Value) :
    language.compared comparison value .null = ((value == .null) == (comparison == .equal)) := by
  rw [compared, if_pos (Or.inr rfl)]
  rfl

/-- The sides of a comparison with null may be swapped. -/
theorem null_compared (comparison : Comparison) (value : Value) :
    language.compared comparison .null value = language.compared comparison value .null := by
  rw [compared, compared, if_pos (Or.inl rfl), if_pos (Or.inr rfl)]
  simp only [eq_comm]

mutual

/-- The value of an expression depends on the variables that it reads. -/
theorem eval_congr : (expr : Expr) → (∀ name ∈ expr.reads, first name = second name) →
    language.eval first expr = language.eval second expr
  | .literal _, _ | .null, _ => rfl
  | .variable name, alike => by
      rw [eval, eval, alike name (List.mem_singleton_self name)]
  | .call (some receiver) _ _ arguments _, alike => by
      obtain ⟨inReceiver, inArguments⟩ := List.forall_mem_append.1 alike
      rw [eval, eval, evalReceiver, evalReceiver, eval_congr receiver inReceiver,
        evalAll_congr arguments inArguments]
  | .call none _ _ arguments _, alike => by
      rw [eval, eval, evalAll_congr arguments alike]
      rfl
  | .construct _ arguments _, alike => by
      rw [eval, eval, evalAll_congr arguments alike]
  | .concat operands _, alike => by
      rw [eval, eval, evalAll_congr operands alike]
  | .not operand, alike => by
      rw [eval, eval, eval_congr operand alike]
  | .and left right, alike | .or left right, alike | .compare _ left right, alike => by
      obtain ⟨inLeft, inRight⟩ := List.forall_mem_append.1 alike
      rw [eval, eval, eval_congr left inLeft, eval_congr right inRight]
  | .cast _ operand, alike => by
      rw [eval, eval, eval_congr operand alike]

theorem evalAll_congr : (exprs : List Expr) →
    (∀ name ∈ Expr.readsOfAll exprs, first name = second name) →
    language.evalAll first exprs = language.evalAll second exprs
  | [], _ => rfl
  | expr :: rest, alike => by
      obtain ⟨inFirst, inRest⟩ := List.forall_mem_append.1 alike
      rw [evalAll, evalAll, eval_congr expr inFirst, evalAll_congr rest inRest]

end

/-- A variable that an expression does not read may get any value. -/
theorem eval_set {store : Store} {name : String} {value : Value} {expr : Expr}
    (unread : name ∉ expr.reads) :
    language.eval (store.set name value) expr = language.eval store expr := by
  refine eval_congr expr fun other member => ?_
  have different : other ≠ name := fun same => unread (same ▸ member)
  rw [Store.set, if_neg different]

/-- A variable seen through casts has its value. -/
theorem eval_of_asVariable {store : Store} {name : String} : (expr : Expr) →
    expr.asVariable = some name → language.eval store expr = some (store name)
  | .variable _, isVariable => by
      rw [eval, Option.some.inj isVariable]
  | .cast _ operand, isVariable => by
      rw [eval]
      exact eval_of_asVariable operand isVariable

end Language

/-- Each flag has the value of the test that it stands for. -/
def AliasTable.HoldIn (table : AliasTable) (language : Language) (store : Store) : Prop :=
  ∀ flag predicate, table.get? flag = some predicate →
    language.eval store predicate = some (store flag)

end ForwardTaint
