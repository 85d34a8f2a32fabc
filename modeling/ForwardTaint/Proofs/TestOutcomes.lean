import ForwardTaint.Catalog.Standard
import ForwardTaint.FlowGraph.Draft
import ForwardTaint.Proofs.Evaluation

/-!
What the outcome of a test tells of the values that it checks.  A test that is taken apart says for
each outcome which checks hold then; these are true of the values of the variables, whatever flags
the test was read through and on whichever side of an equality the known text stands.
-/

namespace ForwardTaint

namespace GuardOperator

/-- Whether the check succeeds on a value.  Texts are equal up to case when their characters fold to
the same ones; null and objects are equal to no text. -/
def succeeds (fold : Char → Char) : GuardOperator → Value → Value → Bool
  | .startsWith, .text text, .text start => Text.beginsWith start text
  | .contains, .text text, .text part => Text.contains part text
  | .equals, value, other => value == other
  | .equalsIgnoreCase, .text text, .text other => text.toList.map fold == other.toList.map fold
  | .isNull, value, _ => value == .null
  | _, _, _ => false

/-- Whether a call of the check has an answer.  There is none for null; all texts and null may be
compared with, but null neither begins nor is part of a text. -/
def answers : GuardOperator → Value → Value → Bool
  | _, .null, _ => false
  | .equals, _, _ => true
  | .startsWith, .text _, .text _ | .contains, .text _, .text _ => true
  | .equalsIgnoreCase, .text _, .text _ | .equalsIgnoreCase, .text _, .null => true
  | _, _, _ => false

/-- An equality succeeds on the same values from either side. -/
theorem succeeds_comm (fold : Char → Char) {operator : GuardOperator}
    (symmetric : operator = .equals ∨ operator = .equalsIgnoreCase) (first second : Value) :
    operator.succeeds fold first second = operator.succeeds fold second first := by
  rcases symmetric with rfl | rfl
  · exact Bool.beq_comm
  · cases first <;> cases second <;> first | rfl | exact Bool.beq_comm

end GuardOperator

/-- The value that an operand is known to have; a check without operand compares with null. -/
def GuardOperand.value? : GuardOperand → Option Value
  | .literal value | .constant _ value => some (.text value)
  | .none => some .null
  | .variable _ | .other _ => Option.none

/-- The check has the outcome that the atom says, if its operand is known. -/
def GuardAtom.IsTrueIn (fold : Char → Char) (store : Store) (atom : GuardAtom) : Prop :=
  ∀ operand, atom.operand.value? = some operand →
    atom.operator.succeeds fold (store atom.subject) operand = !atom.negated

/-- Calls of methods that make checks make these checks. -/
def Language.MakesChecks (language : Language) (fold : Char → Char) : Prop :=
  ∀ {method : String} {operator : GuardOperator},
    GuardOperator.ofMethod? method = some operator →
    ∀ (receiver : Value) (written : Option String) (argument : Value),
      language.call (some receiver) written method [argument] =
        if operator.answers receiver argument then
          some (.truth (operator.succeeds fold receiver argument))
        else none

/-- The names of constants that are not defined in the scope have the values of the constants. -/
def Scope.ConstantsHoldIn (scope : Scope) (store : Store) : Prop :=
  ∀ name value, scope.isDefined name = false → scope.constant? name = some value →
    store name = .text value

namespace Scope

variable {language : Language} {fold : Char → Char} {scope : Scope} {store : Store}

/-- An operand that is known has the value that its expression has. -/
theorem eval_operand (constants : scope.ConstantsHoldIn store) {value : Value} : (expr : Expr) →
    (scope.operand expr).value? = some value → language.eval store expr = some value
  | .literal _, known => known
  | .variable name, known => by
      rw [operand] at known
      rw [Language.eval]
      split at known
      · exact nomatch known
      · rename_i undefined
        split at known
        · rename_i text isConstant
          rw [constants name text (Bool.eq_false_iff.2 undefined) isConstant]
          exact known
        · exact nomatch known
  | .cast _ inner, known => by
      rw [Language.eval]
      exact eval_operand constants inner known
  | .null, known | .call _ _ _ _ _, known | .construct _ _ _, known | .concat _ _, known
  | .not _, known | .and _ _, known | .or _ _, known | .compare _ _ _, known => nomatch known

/-- The variable that an expression is has its value. -/
theorem eval_of_subject {expr : Expr} {subject : String}
    (isSubject : scope.subject? expr = some subject) :
    language.eval store expr = some (store subject) :=
  Language.eval_of_asVariable expr (Option.filter_eq_some_iff.1 isSubject).1

/-- A call of a check tells its outcome. -/
theorem succeeds_of_call (checks : language.MakesChecks fold) {receiver argument : Expr}
    {written : Option String} {method : String} {span : Span} {operator : GuardOperator}
    (isCheck : GuardOperator.ofMethod? method = some operator) {outcome : Bool} {first second : Value}
    (isFirst : language.eval store receiver = some first)
    (isSecond : language.eval store argument = some second)
    (evaluated : language.eval store (.call (some receiver) written method [argument] span) =
      some (.truth outcome)) :
    operator.succeeds fold first second = outcome := by
  rw [Language.eval, Language.evalReceiver, Language.evalAll, Language.evalAll, isFirst,
    isSecond] at evaluated
  have answer : language.call (some first) written method [second] = some (.truth outcome) :=
    evaluated
  rw [checks isCheck] at answer
  split at answer
  · exact Value.truth.inj (Option.some.inj answer)
  · exact nomatch answer

/-- A check has the outcome of its call. -/
theorem checkAtom_isTrue (checks : language.MakesChecks fold)
    (constants : scope.ConstantsHoldIn store) {expr : Expr} {atom : GuardAtom}
    (isAtom : scope.checkAtom? expr = some atom) {outcome : Bool}
    (evaluated : language.eval store expr = some (.truth outcome)) :
    GuardAtom.IsTrueIn fold store { atom with negated := !outcome } := by
  intro value known
  unfold checkAtom? at isAtom
  split at isAtom
  case h_2 => exact nomatch isAtom
  case h_1 receiver written method argument span =>
    obtain ⟨operator, isCheck, isAtom⟩ := Option.bind_eq_some_iff.1 isAtom
    show atom.operator.succeeds fold (store atom.subject) value = !!outcome
    rw [Bool.not_not]
    split at isAtom
    · -- the subject is asked
      rename_i subject isSubject
      cases isAtom
      exact succeeds_of_call checks isCheck (eval_of_subject isSubject)
        (eval_operand constants argument known) evaluated
    · -- a known text is asked for the subject, so the sides are the other way
      rename_i noVariable
      split at isAtom
      · rename_i swapped
        obtain ⟨subject, isSubject, isAtom⟩ := Option.map_eq_some_iff.1 isAtom
        cases isAtom
        rw [GuardOperator.succeeds_comm fold swapped.1]
        exact succeeds_of_call checks isCheck (eval_operand constants receiver known)
          (eval_of_subject isSubject) evaluated
      · exact nomatch isAtom

/-- A comparison with null compares the value of the variable. -/
theorem compared_of_nullSubject {comparison : Comparison} {left right : Expr} {subject : String}
    (isSubject : nullSubject? left right = some subject) :
    language.eval store (.compare comparison left right) =
      some (.truth (language.compared comparison (store subject) .null)) := by
  unfold nullSubject? at isSubject
  split at isSubject
  · rename_i leftIsNull
    rw [leftIsNull, Language.eval, Language.eval,
      Language.eval_of_asVariable right isSubject, ← Language.null_compared]
    rfl
  · split at isSubject
    · rename_i rightIsNull
      rw [rightIsNull, Language.eval, Language.eval_of_asVariable left isSubject, Language.eval]
      rfl
    · exact nomatch isSubject

/-- A comparison with null tells whether the variable is null. -/
theorem nullSubject_isTrue {comparison : Comparison} {left right : Expr} {subject : String}
    (isSubject : nullSubject? left right = some subject) {outcome : Bool}
    (evaluated : language.eval store (.compare comparison left right) = some (.truth outcome)) :
    GuardAtom.IsTrueIn fold store
      ⟨subject, .isNull, .none, outcome != (comparison == .equal)⟩ := by
  intro value _
  rw [compared_of_nullSubject isSubject, Language.compared_null] at evaluated
  have isOutcome : ((store subject == .null) == (comparison == .equal)) = outcome :=
    Value.truth.inj (Option.some.inj evaluated)
  show (store subject == .null) = !(outcome != (comparison == .equal))
  rw [← isOutcome]
  cases store subject == .null <;> cases comparison == .equal <;> rfl

/-- Every check that a test is taken apart into has the outcome that the atom says. -/
theorem definiteAtoms_isTrue (checks : language.MakesChecks fold)
    (constants : scope.ConstantsHoldIn store) (flags : scope.aliases.HoldIn language store)
    {atom : GuardAtom} (fuel : Nat) (expr : Expr) (outcome : Bool)
    (evaluated : language.eval store expr = some (.truth outcome))
    (member : atom ∈ scope.definiteAtoms fuel expr outcome) : atom.IsTrueIn fold store := by
  induction fuel generalizing expr outcome with
  | zero => exact nomatch member
  | succ fuel inductionHypothesis =>
      cases expr with
      | not operand =>
          exact inductionHypothesis operand (!outcome) (Language.eval_not_iff.1 evaluated) member
      | and left right =>
          rw [definiteAtoms] at member
          split at member
          · rename_i isTrue
            subst isTrue
            obtain ⟨isLeft, isRight⟩ := Language.eval_and_iff.1 evaluated
            rcases List.mem_append.1 member with inLeft | inRight
            · exact inductionHypothesis left true isLeft inLeft
            · exact inductionHypothesis right true isRight inRight
          · exact nomatch member
      | or left right =>
          rw [definiteAtoms] at member
          split at member
          · exact nomatch member
          · rename_i isFalse
            rw [Bool.not_eq_true] at isFalse
            subst isFalse
            obtain ⟨isLeft, isRight⟩ := Language.eval_or_iff.1 evaluated
            rcases List.mem_append.1 member with inLeft | inRight
            · exact inductionHypothesis left false isLeft inLeft
            · exact inductionHypothesis right false isRight inRight
      | compare comparison left right =>
          rw [definiteAtoms] at member
          split at member
          · rename_i subject isSubject
            rw [List.mem_singleton.1 member]
            exact nullSubject_isTrue isSubject evaluated
          · exact nomatch member
      | call receiver written method arguments span =>
          rw [definiteAtoms] at member
          split at member
          · rename_i check isAtom
            rw [List.mem_singleton.1 member]
            exact checkAtom_isTrue checks constants isAtom evaluated
          · exact nomatch member
      | «variable» name =>
          rw [definiteAtoms] at member
          split at member
          · rename_i predicate bound
            have valued : language.eval store predicate = some (.truth outcome) := by
              rw [flags name predicate bound]
              exact evaluated
            exact inductionHypothesis predicate outcome valued member
          · exact nomatch member
      | cast _ operand =>
          rw [Language.eval] at evaluated
          exact inductionHypothesis operand outcome evaluated member
      | literal _ => exact nomatch member
      | null => exact nomatch member
      | construct _ _ _ => exact nomatch member
      | concat _ _ => exact nomatch member

end Scope

/-- The checks that an outcome of a test is said to show are true of the values of the variables
whenever the test has that outcome: through flags that have the values of their tests, and with
texts that are written out or are values of constants, on either side of an equality. -/
theorem BuildContext.decompose_atoms_true {language : Language} {fold : Char → Char}
    (checks : language.MakesChecks fold) (context : BuildContext) (environment : Environment)
    {store : Store} (flags : environment.aliases.HoldIn language store)
    (constants : (context.scope environment).ConstantsHoldIn store)
    (id : Nat) (test : Expr) (span : Span) {outcome : Bool}
    (evaluated : language.eval store test = some (.truth outcome)) :
    ∀ atom ∈ ((context.scope environment).decompose id test span).atoms outcome,
      atom.IsTrueIn fold store := by
  intro atom member
  have definite : atom ∈ (context.scope environment).definiteAtoms (maxNesting + 1) test outcome := by
    cases outcome with
    | false => exact member
    | true => exact member
  exact Scope.definiteAtoms_isTrue checks constants flags _ test outcome evaluated definite

/-- A language in which nothing but checks has an answer. -/
def Language.checking (fold : Char → Char) : Language where
  call receiver _ method arguments :=
    match receiver, GuardOperator.ofMethod? method, arguments with
    | some receiver, some operator, [argument] =>
        if operator.answers receiver argument then
          some (.truth (operator.succeeds fold receiver argument))
        else none
    | _, _, _ => none
  construct _ _ := none
  concat _ := none
  same left right := left == right

theorem Language.makesChecks_checking (fold : Char → Char) :
    (Language.checking fold).MakesChecks fold := by
  intro method operator isCheck receiver written argument
  simp only [checking, isCheck]

namespace HomeCheck

/-- The test that the flag stands for. -/
def predicate : Expr := .methodCall (.variable "HOME") "equals" [.variable "path"]

/-- Asks through the flag whether the path is the home page, and asks of the mode. -/
def test : Expr :=
  .and (.not (.not (.variable "atHome")))
    (.methodCall (.cast "String" (.variable "MODE")) "startsWith" [.literal "read"])

/-- A unit with two constants. -/
def context : BuildContext :=
  ⟨.empty, (StringMap.empty.insert "HOME" "/home").insert "MODE" "write",
    .named "serve"⟩

/-- A place where a local hides one of the constants. -/
def environment : Environment where
  definitions := (StringMap.empty.insert "path" 0).insert "MODE" 1
  aliases := StringMap.empty.insert "atHome" predicate
  reachable := true

/-- The values of the variables there. -/
def store : Store
  | "atHome" => .truth true
  | "HOME" | "path" => .text "/home"
  | "MODE" => .text "readonly"
  | _ => .null

/-- The home page is known from the constant, the mode from the local that hides the other one. -/
theorem atoms_true :
    ((context.scope environment).decompose 0 test .zero).atoms true =
        [⟨"path", .equals, .constant "HOME" "/home", false⟩,
          ⟨"MODE", .startsWith, .literal "read", false⟩] ∧
      ∀ atom ∈ ((context.scope environment).decompose 0 test .zero).atoms true,
        atom.IsTrueIn id store := by
  have flags : environment.aliases.HoldIn (.checking id) store := by
    intro flag bound isBound
    change (StringMap.empty.insert "atHome" predicate).get? flag = some bound at isBound
    rw [StringMap.get?_insert] at isBound
    split at isBound
    · rename_i isFlag
      rw [isFlag, ← Option.some.inj isBound]
      decide
    · exact nomatch isBound
  have constants : (context.scope environment).ConstantsHoldIn store := by
    intro name value undefined isConstant
    change ((StringMap.empty.insert "HOME" "/home").insert "MODE" "write").get? name =
      some value at isConstant
    rw [StringMap.get?_insert, StringMap.get?_insert] at isConstant
    split at isConstant
    · rename_i isMode
      subst isMode
      exact absurd undefined (by decide)
    · split at isConstant
      · rename_i isHome
        subst isHome
        rw [← Option.some.inj isConstant]
        rfl
      · exact nomatch isConstant
  exact ⟨by decide, BuildContext.decompose_atoms_true (Language.makesChecks_checking id) context
    environment flags constants 0 test .zero (by decide)⟩

end HomeCheck

end ForwardTaint
