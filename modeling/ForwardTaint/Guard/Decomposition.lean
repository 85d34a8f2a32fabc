import ForwardTaint.Guard.Alias

/-!
Taking tests apart.  A conjunction holds part by part where it is true, a disjunction where it is
false; flags are read through to the tests they stand for.
-/

namespace ForwardTaint

/-- The greatest depth to which statements, expressions and tests are followed. -/
def maxNesting : Nat := 256

/-- What names mean at a place: which are defined there, the constants, and the flags that stand
for a test. -/
structure Scope where
  isDefined : String → Bool
  constant? : String → Option String
  aliases : AliasTable

namespace Scope

/-- Whether a name is a local or a parameter, and no constant. -/
def isVariable (scope : Scope) (name : String) : Bool :=
  scope.isDefined name || (scope.constant? name).isNone

/-- The text that a literal or the name of a constant stands for. -/
def knownString? (scope : Scope) : Expr → Option String
  | .literal value => some value
  | .variable name => scope.constant? name
  | _ => none

/-- The operand of a check; a local hides the constant of its name. -/
def operand (scope : Scope) : Expr → GuardOperand
  | .literal value => .literal value
  | .variable name =>
      if scope.isDefined name then .variable name
      else match scope.constant? name with
        | some value => .constant name value
        | none => .variable name
  | .cast _ inner => scope.operand inner
  | expr => .other expr.text

/-- The variable that an expression is, unless it is the name of a constant. -/
def subject? (scope : Scope) (expr : Expr) : Option String :=
  expr.asVariable.filter scope.isVariable

/-- The check that a call makes.  An equality may have its known text in front. -/
def checkAtom? (scope : Scope) : Expr → Option GuardAtom
  | .call (some receiver) _ method [argument] _ =>
      (GuardOperator.ofMethod? method).bind fun operator =>
        match scope.subject? receiver with
        | some subject => some ⟨subject, operator, scope.operand argument, false⟩
        | none =>
            if (operator = .equals ∨ operator = .equalsIgnoreCase)
                ∧ (scope.knownString? receiver).isSome then
              (scope.subject? argument).map fun subject =>
                ⟨subject, operator, scope.operand receiver, false⟩
            else none
  | _ => none

/-- The variable that a comparison compares with nothing. -/
def nullSubject? (left right : Expr) : Option String :=
  if left = .null then right.asVariable
  else if right = .null then left.asVariable
  else none

/-- The atoms that hold whenever the test has the outcome; `fuel` bounds how deep the test and the
tests behind flags are followed. -/
def definiteAtoms (scope : Scope) : Nat → Expr → Bool → List GuardAtom
  | 0, _, _ => []
  | fuel + 1, expr, outcome =>
      match expr with
      | .not operand => scope.definiteAtoms fuel operand (!outcome)
      | .and left right =>
          if outcome then
            scope.definiteAtoms fuel left true ++ scope.definiteAtoms fuel right true
          else []
      | .or left right =>
          if outcome then []
          else scope.definiteAtoms fuel left false ++ scope.definiteAtoms fuel right false
      | .compare comparison left right =>
          match nullSubject? left right with
          | some subject => [⟨subject, .isNull, .none, outcome != (comparison == .equal)⟩]
          | none => []
      | .call _ _ _ _ _ =>
          match scope.checkAtom? expr with
          | some atom => [{ atom with negated := !outcome }]
          | none => []
      | .variable name =>
          match scope.aliases.get? name with
          | some predicate => scope.definiteAtoms fuel predicate outcome
          | none => []
      | .cast _ operand => scope.definiteAtoms fuel operand outcome
      | .literal _ | .null | .construct _ _ _ | .concat _ _ => []

/-- The last flag that is read through for the outcome. -/
def flagRead? (scope : Scope) : Nat → Expr → Bool → Option String
  | 0, _, _ => none
  | fuel + 1, expr, outcome =>
      match expr with
      | .not operand => scope.flagRead? fuel operand (!outcome)
      | .and left right =>
          if outcome then
            (scope.flagRead? fuel right true).or (scope.flagRead? fuel left true)
          else none
      | .or left right =>
          if outcome then none
          else (scope.flagRead? fuel right false).or (scope.flagRead? fuel left false)
      | .variable name =>
          match scope.aliases.get? name with
          | some predicate => (scope.flagRead? fuel predicate outcome).or (some name)
          | none => none
      | .cast _ operand => scope.flagRead? fuel operand outcome
      | .compare _ _ _ | .call _ _ _ _ _ | .literal _ | .null | .construct _ _ _ | .concat _ _ =>
          none

/-- The defined variables that are read by parts of the test that cannot be taken apart. -/
def opaqueReads (scope : Scope) : Nat → Expr → List String
  | 0, _ => []
  | fuel + 1, expr =>
      let reads := expr.variableNames.filter scope.isDefined
      match expr with
      | .not operand | .cast _ operand => scope.opaqueReads fuel operand
      | .and left right | .or left right =>
          scope.opaqueReads fuel left ++ scope.opaqueReads fuel right
      | .compare _ left right => if (nullSubject? left right).isSome then [] else reads
      | .call _ _ _ _ _ => if (scope.checkAtom? expr).isSome then [] else reads
      | .variable name =>
          match scope.aliases.get? name with
          | some predicate => scope.opaqueReads fuel predicate
          | none => reads
      | .literal _ | .null => []
      | .construct _ _ _ | .concat _ _ => reads

/-- Takes a test apart; a test without a place of its own stands where its expression does. -/
def decompose (scope : Scope) (id : Nat) (test : Expr) (span : Span) : GuardCondition where
  id := id
  text := test.text
  span := if span.isZero then test.span else span
  onTrue := scope.definiteAtoms (maxNesting + 1) test true
  onFalse := scope.definiteAtoms (maxNesting + 1) test false
  opaqueSubjects := Names.distinct (scope.opaqueReads (maxNesting + 1) test)
  flagName := (scope.flagRead? (maxNesting + 1) test false).or
    (scope.flagRead? (maxNesting + 1) test true)

end Scope

end ForwardTaint
