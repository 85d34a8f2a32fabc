import ForwardTaint.Guard.Decomposition

/-!
Tests in different forms.  A test that is rewritten by De Morgan's laws and without double negations,
at any place of its boolean structure, is taken apart into the same atoms, and its negation has the
atoms of the other outcome, as long as the forms are followed to their ends.  In particular a test
may be brought into negation normal form.
-/

namespace ForwardTaint

namespace Expr

/-- The second test comes from the first one by De Morgan's laws and double negation, used in either
direction on the test or on parts that negations, conjunctions, disjunctions and casts join. -/
inductive Rewrites : Expr → Expr → Prop
  | doubleNegation {test : Expr} : Rewrites (.not (.not test)) test
  | notAnd {left right : Expr} :
      Rewrites (.not (.and left right)) (.or (.not left) (.not right))
  | notOr {left right : Expr} :
      Rewrites (.not (.or left right)) (.and (.not left) (.not right))
  | not {test other : Expr} (inside : Rewrites test other) : Rewrites (.not test) (.not other)
  | and {left right left' right' : Expr} (onLeft : Rewrites left left')
      (onRight : Rewrites right right') : Rewrites (.and left right) (.and left' right')
  | or {left right left' right' : Expr} (onLeft : Rewrites left left')
      (onRight : Rewrites right right') : Rewrites (.or left right) (.or left' right')
  | cast {typeName : String} {test other : Expr} (inside : Rewrites test other) :
      Rewrites (.cast typeName test) (.cast typeName other)
  | refl {test : Expr} : Rewrites test test
  | symm {test other : Expr} (back : Rewrites test other) : Rewrites other test
  | trans {test middle other : Expr} (first : Rewrites test middle)
      (second : Rewrites middle other) : Rewrites test other

/-- A rewritten test stands where the test does. -/
theorem Rewrites.span_eq {test other : Expr} (rewrites : test.Rewrites other) :
    test.span = other.span := by
  induction rewrites with
  | doubleNegation | notAnd | notOr | refl => rfl
  | not _ inductionHypothesis | cast _ inductionHypothesis => exact inductionHypothesis
  | and _ _ onLeft _ | or _ _ onLeft _ => exact onLeft
  | symm _ inductionHypothesis => exact inductionHypothesis.symm
  | trans _ _ first second => exact first.trans second

end Expr

/-- What is known on one outcome of a test: the atoms that hold, and the last flag read through. -/
structure OutcomeParts where
  atoms : List GuardAtom
  flagName : Option String

namespace OutcomeParts

/-- Nothing is known. -/
def nothing : OutcomeParts := ⟨[], none⟩

/-- What is known where two tests have their outcomes. -/
def both (left right : OutcomeParts) : OutcomeParts :=
  ⟨left.atoms ++ right.atoms, right.flagName.or left.flagName⟩

/-- What is known of a flag from the test that it stands for. -/
def through (parts : OutcomeParts) (flag : String) : OutcomeParts :=
  { parts with flagName := parts.flagName.or (some flag) }

end OutcomeParts

/-- What a test is taken apart into. -/
structure TestParts where
  whenTrue : OutcomeParts
  whenFalse : OutcomeParts
  opaqueReads : List String

namespace TestParts

variable {parts left right : TestParts}

def negation (parts : TestParts) : TestParts :=
  ⟨parts.whenFalse, parts.whenTrue, parts.opaqueReads⟩

def conjunction (left right : TestParts) : TestParts :=
  ⟨left.whenTrue.both right.whenTrue, .nothing, left.opaqueReads ++ right.opaqueReads⟩

def disjunction (left right : TestParts) : TestParts :=
  ⟨.nothing, left.whenFalse.both right.whenFalse, left.opaqueReads ++ right.opaqueReads⟩

/-- What is known of a flag from the test that it stands for. -/
def through (parts : TestParts) (flag : String) : TestParts :=
  ⟨parts.whenTrue.through flag, parts.whenFalse.through flag, parts.opaqueReads⟩

theorem negation_negation : parts.negation.negation = parts := rfl

theorem negation_conjunction :
    (left.conjunction right).negation = left.negation.disjunction right.negation := rfl

theorem negation_disjunction :
    (left.disjunction right).negation = left.negation.conjunction right.negation := rfl

end TestParts

namespace Scope

variable {scope : Scope} {levels fuel : Nat}

/-- Whether a test with flags read through has at most so many levels, that of its leaves included.
Leaves are what is not taken apart further: checks, comparisons, and all that is no test. -/
def nestsWithin (scope : Scope) : Nat → Expr → Bool
  | 0, _ => false
  | levels + 1, .not operand | levels + 1, .cast _ operand => scope.nestsWithin levels operand
  | levels + 1, .and left right | levels + 1, .or left right =>
      scope.nestsWithin levels left && scope.nestsWithin levels right
  | levels + 1, .variable name =>
      match scope.aliases.get? name with
      | some predicate => scope.nestsWithin levels predicate
      | none => true
  | _ + 1, _ => true

/-- What a test is taken apart into when it is followed so deep. -/
def parts (scope : Scope) (fuel : Nat) (test : Expr) : TestParts where
  whenTrue := ⟨scope.definiteAtoms fuel test true, scope.flagRead? fuel test true⟩
  whenFalse := ⟨scope.definiteAtoms fuel test false, scope.flagRead? fuel test false⟩
  opaqueReads := scope.opaqueReads fuel test

theorem parts_not (operand : Expr) :
    scope.parts (fuel + 1) (.not operand) = (scope.parts fuel operand).negation := rfl

theorem parts_and (left right : Expr) :
    scope.parts (fuel + 1) (.and left right) =
      (scope.parts fuel left).conjunction (scope.parts fuel right) := rfl

theorem parts_or (left right : Expr) :
    scope.parts (fuel + 1) (.or left right) =
      (scope.parts fuel left).disjunction (scope.parts fuel right) := rfl

theorem parts_flag {name : String} {predicate : Expr}
    (bound : scope.aliases.get? name = some predicate) :
    scope.parts (fuel + 1) (.variable name) = (scope.parts fuel predicate).through name := by
  simp only [parts, definiteAtoms, flagRead?, opaqueReads, bound]
  rfl

/-- A test that is followed to its ends is taken apart in the same way by following it further. -/
theorem parts_of_nestsWithin {test : Expr} (nests : scope.nestsWithin levels test = true)
    (enough : levels ≤ fuel) :
    scope.nestsWithin fuel test = true ∧ scope.parts fuel test = scope.parts levels test := by
  induction levels generalizing fuel test with
  | zero => exact nomatch nests
  | succ levels inductionHypothesis =>
      cases fuel with
      | zero => exact absurd enough (Nat.not_succ_le_zero _)
      | succ fuel =>
          have inside {part : Expr} (nests : scope.nestsWithin levels part = true) :=
            inductionHypothesis nests (Nat.le_of_succ_le_succ enough)
          cases test with
          | not operand =>
              obtain ⟨nests', same⟩ := inside nests
              rw [parts_not, parts_not, same]
              exact ⟨nests', rfl⟩
          | cast typeName operand => exact inside nests
          | and left right | or left right =>
              obtain ⟨nestsLeft, nestsRight⟩ := Bool.and_eq_true_iff.1 nests
              obtain ⟨nestsLeft', sameLeft⟩ := inside nestsLeft
              obtain ⟨nestsRight', sameRight⟩ := inside nestsRight
              refine ⟨Bool.and_eq_true_iff.2 ⟨nestsLeft', nestsRight'⟩, ?_⟩
              simp only [parts_and, parts_or, sameLeft, sameRight]
          | «variable» name =>
              rw [nestsWithin] at nests ⊢
              split at nests
              · rename_i predicate bound
                obtain ⟨nests', same⟩ := inside nests
                rw [parts_flag bound, parts_flag bound, same]
                exact ⟨nests', rfl⟩
              · rename_i unbound
                simp only [parts, definiteAtoms, flagRead?, opaqueReads, unbound, and_self]
          | literal | null | call | construct | concat | compare => exact ⟨rfl, rfl⟩

/-- The test is taken apart into the parts when it is followed to its ends. -/
def Splits (scope : Scope) (test : Expr) (parts : TestParts) : Prop :=
  ∃ levels, scope.nestsWithin levels test = true ∧ scope.parts levels test = parts

/-- There is only one way in which a test is taken apart. -/
theorem Splits.unique {test : Expr} {first second : TestParts} (splits : scope.Splits test first)
    (splits' : scope.Splits test second) : first = second := by
  obtain ⟨levels, nests, rfl⟩ := splits
  obtain ⟨levels', nests', rfl⟩ := splits'
  rw [← (parts_of_nestsWithin nests (Nat.le_max_left levels levels')).2,
    ← (parts_of_nestsWithin nests' (Nat.le_max_right levels levels')).2]

/-- How deep a test is followed does not matter when it is followed to its ends. -/
theorem Splits.parts_eq {test : Expr} {parts : TestParts} (splits : scope.Splits test parts)
    (nests : scope.nestsWithin fuel test = true) : scope.parts fuel test = parts :=
  Splits.unique ⟨fuel, nests, rfl⟩ splits

section Splits

variable {parts : TestParts} {left right operand : Expr} {typeName : String}

theorem splits_not : scope.Splits (.not operand) parts ↔ scope.Splits operand parts.negation := by
  constructor
  · rintro ⟨levels, nests, rfl⟩
    cases levels with
    | zero => exact nomatch nests
    | succ levels => exact ⟨levels, nests, rfl⟩
  · rintro ⟨levels, nests, same⟩
    refine ⟨levels + 1, nests, ?_⟩
    rw [parts_not, same]
    rfl

theorem splits_cast : scope.Splits (.cast typeName operand) parts ↔ scope.Splits operand parts := by
  constructor
  · rintro ⟨levels, nests, rfl⟩
    cases levels with
    | zero => exact nomatch nests
    | succ levels => exact ⟨levels, nests, rfl⟩
  · rintro ⟨levels, nests, rfl⟩
    exact ⟨levels + 1, nests, rfl⟩

/-- A test that joins two others is taken apart by taking these apart. -/
theorem splits_join {test : Expr} {join : TestParts → TestParts → TestParts}
    (nests_succ : ∀ levels, scope.nestsWithin (levels + 1) test =
      (scope.nestsWithin levels left && scope.nestsWithin levels right))
    (parts_succ : ∀ levels, scope.parts (levels + 1) test =
      join (scope.parts levels left) (scope.parts levels right)) :
    scope.Splits test parts ↔ ∃ ofLeft ofRight, scope.Splits left ofLeft ∧
      scope.Splits right ofRight ∧ parts = join ofLeft ofRight := by
  constructor
  · rintro ⟨levels, nests, rfl⟩
    cases levels with
    | zero => exact nomatch nests
    | succ levels =>
        rw [nests_succ, Bool.and_eq_true] at nests
        exact ⟨_, _, ⟨levels, nests.1, rfl⟩, ⟨levels, nests.2, rfl⟩, parts_succ levels⟩
  · rintro ⟨_, _, ⟨levels, nests, rfl⟩, ⟨levels', nests', rfl⟩, rfl⟩
    obtain ⟨nestsLeft, sameLeft⟩ := parts_of_nestsWithin nests (Nat.le_max_left levels levels')
    obtain ⟨nestsRight, sameRight⟩ := parts_of_nestsWithin nests' (Nat.le_max_right levels levels')
    refine ⟨max levels levels' + 1, ?_, ?_⟩
    · rw [nests_succ, nestsLeft, nestsRight]
      rfl
    · rw [parts_succ, sameLeft, sameRight]

theorem splits_and : scope.Splits (.and left right) parts ↔
    ∃ ofLeft ofRight, scope.Splits left ofLeft ∧ scope.Splits right ofRight ∧
      parts = ofLeft.conjunction ofRight :=
  splits_join (fun _ => rfl) fun _ => parts_and left right

theorem splits_or : scope.Splits (.or left right) parts ↔
    ∃ ofLeft ofRight, scope.Splits left ofLeft ∧ scope.Splits right ofRight ∧
      parts = ofLeft.disjunction ofRight :=
  splits_join (fun _ => rfl) fun _ => parts_or left right

/-- De Morgan's law for the parts: the negation of a test that joins two others has the parts of the
dual join of their negations. -/
theorem splits_dual {join dual : TestParts → TestParts → TestParts}
    (negation_join : ∀ first second, (join first second).negation =
      dual first.negation second.negation) :
    (∃ ofLeft ofRight, scope.Splits left ofLeft ∧ scope.Splits right ofRight ∧
      parts.negation = join ofLeft ofRight) ↔
    ∃ ofLeft ofRight, scope.Splits (.not left) ofLeft ∧ scope.Splits (.not right) ofRight ∧
      parts = dual ofLeft ofRight := by
  constructor
  · rintro ⟨ofLeft, ofRight, onLeft, onRight, same⟩
    refine ⟨ofLeft.negation, ofRight.negation, splits_not.2 onLeft, splits_not.2 onRight, ?_⟩
    rw [← negation_join, ← same, TestParts.negation_negation]
  · rintro ⟨ofLeft, ofRight, onLeft, onRight, rfl⟩
    refine ⟨ofLeft.negation, ofRight.negation, splits_not.1 onLeft, splits_not.1 onRight, ?_⟩
    have same := negation_join ofLeft.negation ofRight.negation
    rw [TestParts.negation_negation, TestParts.negation_negation] at same
    rw [← same, TestParts.negation_negation]

end Splits

end Scope

open Scope in
/-- A test and its rewritten forms are taken apart in the same way. -/
theorem Expr.Rewrites.splits_iff {scope : Scope} {test other : Expr}
    (rewrites : test.Rewrites other) (parts : TestParts) :
    scope.Splits test parts ↔ scope.Splits other parts := by
  induction rewrites generalizing parts with
  | doubleNegation => rw [splits_not, splits_not, TestParts.negation_negation]
  | notAnd =>
      rw [splits_not, splits_and, splits_or]
      exact splits_dual fun _ _ => TestParts.negation_conjunction
  | notOr =>
      rw [splits_not, splits_or, splits_and]
      exact splits_dual fun _ _ => TestParts.negation_disjunction
  | not _ inside => rw [splits_not, splits_not, inside]
  | and _ _ onLeft onRight => simp only [splits_and, onLeft, onRight]
  | or _ _ onLeft onRight => simp only [splits_or, onLeft, onRight]
  | cast _ inside => rw [splits_cast, splits_cast, inside]
  | refl => rfl
  | symm _ back => exact (back parts).symm
  | trans _ _ first second => exact (first parts).trans (second parts)

/-- The condition of a test with the parts. -/
def TestParts.condition (parts : TestParts) (id : Nat) (text : String) (span : Span) :
    GuardCondition where
  id := id
  text := text
  span := span
  onTrue := parts.whenTrue.atoms
  onFalse := parts.whenFalse.atoms
  opaqueSubjects := Names.distinct parts.opaqueReads
  flagName := parts.whenFalse.flagName.or parts.whenTrue.flagName

namespace Scope

variable {scope : Scope} {test other : Expr}

theorem decompose_eq (scope : Scope) (id : Nat) (test : Expr) (span : Span) :
    scope.decompose id test span = (scope.parts (maxNesting + 1) test).condition id test.text
      (if span.isZero then test.span else span) := rfl

/-- Forms of a test that are both followed to their ends have the same parts. -/
theorem parts_of_rewrites {fuel : Nat} (rewrites : test.Rewrites other)
    (nests : scope.nestsWithin fuel test = true) (nests' : scope.nestsWithin fuel other = true) :
    scope.parts fuel other = scope.parts fuel test :=
  Splits.parts_eq ((rewrites.splits_iff _).1 ⟨fuel, nests, rfl⟩) nests'

theorem decompose_of_rewrites (rewrites : test.Rewrites other)
    (nests : scope.nestsWithin (maxNesting + 1) test = true)
    (nests' : scope.nestsWithin (maxNesting + 1) other = true) (id : Nat) (span : Span) :
    scope.decompose id other span = { scope.decompose id test span with text := other.text } := by
  rw [decompose_eq, decompose_eq, parts_of_rewrites rewrites nests nests', rewrites.span_eq]
  rfl

end Scope

namespace Expr

/-- The test, or its negation where the outcome is false. -/
def whenever (test : Expr) (outcome : Bool) : Expr := if outcome then test else .not test

/-- The test, or its negation where the outcome is false, with negations only of leaves and casts. -/
def negationNormal : Expr → Bool → Expr
  | .not operand, outcome => operand.negationNormal (!outcome)
  | .and left right, true => .and (left.negationNormal true) (right.negationNormal true)
  | .and left right, false => .or (left.negationNormal false) (right.negationNormal false)
  | .or left right, true => .or (left.negationNormal true) (right.negationNormal true)
  | .or left right, false => .and (left.negationNormal false) (right.negationNormal false)
  | .cast typeName operand, outcome =>
      whenever (.cast typeName (operand.negationNormal true)) outcome
  | leaf, outcome => leaf.whenever outcome

/-- Whether only leaves and casts are negated. -/
def isNegationNormal : Expr → Bool
  | .not (.not _) | .not (.and _ _) | .not (.or _ _) => false
  | .not operand | .cast _ operand => operand.isNegationNormal
  | .and left right | .or left right => left.isNegationNormal && right.isNegationNormal
  | _ => true

theorem isNegationNormal_negationNormal : (test : Expr) → (outcome : Bool) →
    (test.negationNormal outcome).isNegationNormal = true
  | .not operand, outcome => isNegationNormal_negationNormal operand (!outcome)
  | .and left right, true | .or left right, true =>
      Bool.and_eq_true_iff.2 ⟨isNegationNormal_negationNormal left true,
        isNegationNormal_negationNormal right true⟩
  | .and left right, false | .or left right, false =>
      Bool.and_eq_true_iff.2 ⟨isNegationNormal_negationNormal left false,
        isNegationNormal_negationNormal right false⟩
  | .cast _ operand, true | .cast _ operand, false => isNegationNormal_negationNormal operand true
  | .literal _, true | .literal _, false | .null, true | .null, false
  | .variable _, true | .variable _, false | .call _ _ _ _ _, true | .call _ _ _ _ _, false
  | .construct _ _ _, true | .construct _ _ _, false | .concat _ _, true | .concat _ _, false
  | .compare _ _ _, true | .compare _ _ _, false => rfl

/-- The normal form is a form of the test. -/
theorem rewrites_negationNormal : (test : Expr) → (outcome : Bool) →
    (test.whenever outcome).Rewrites (test.negationNormal outcome)
  | .not operand, true => rewrites_negationNormal operand false
  | .not operand, false => .trans .doubleNegation (rewrites_negationNormal operand true)
  | .and left right, true =>
      .and (rewrites_negationNormal left true) (rewrites_negationNormal right true)
  | .and left right, false => .trans .notAnd
      (.or (rewrites_negationNormal left false) (rewrites_negationNormal right false))
  | .or left right, true =>
      .or (rewrites_negationNormal left true) (rewrites_negationNormal right true)
  | .or left right, false => .trans .notOr
      (.and (rewrites_negationNormal left false) (rewrites_negationNormal right false))
  | .cast _ operand, true => .cast (rewrites_negationNormal operand true)
  | .cast _ operand, false => .not (.cast (rewrites_negationNormal operand true))
  | .literal _, _ | .null, _ | .variable _, _ | .call _ _ _ _ _, _ | .construct _ _ _, _
  | .concat _ _, _ | .compare _ _ _, _ => .refl

end Expr

namespace Scope

variable {scope : Scope}

/-- The normal form nests no deeper than the test. -/
theorem nestsWithin_negationNormal : (test : Expr) → (outcome : Bool) → {levels : Nat} →
    scope.nestsWithin levels (test.whenever outcome) = true →
    scope.nestsWithin levels (test.negationNormal outcome) = true
  | .not operand, true, _, nests => nestsWithin_negationNormal operand false nests
  | .not operand, false, levels + 2, nests =>
      (parts_of_nestsWithin (nestsWithin_negationNormal operand true nests) (by omega)).1
  | .and left right, true, levels + 1, nests | .or left right, true, levels + 1, nests => by
      obtain ⟨nestsLeft, nestsRight⟩ := Bool.and_eq_true_iff.1 nests
      exact Bool.and_eq_true_iff.2 ⟨nestsWithin_negationNormal left true nestsLeft,
        nestsWithin_negationNormal right true nestsRight⟩
  | .and left right, false, levels + 2, nests | .or left right, false, levels + 2, nests => by
      obtain ⟨nestsLeft, nestsRight⟩ := Bool.and_eq_true_iff.1 nests
      exact Bool.and_eq_true_iff.2 ⟨nestsWithin_negationNormal left false nestsLeft,
        nestsWithin_negationNormal right false nestsRight⟩
  | .cast _ operand, true, levels + 1, nests | .cast _ operand, false, levels + 2, nests =>
      nestsWithin_negationNormal operand true nests
  | .literal _, _, _, nests | .null, _, _, nests | .variable _, _, _, nests
  | .call _ _ _ _ _, _, _, nests | .construct _ _ _, _, _, nests | .concat _ _, _, _, nests
  | .compare _ _ _, _, _, nests => nests

/-- Bringing a test into negation normal form changes nothing of its condition but the text. -/
theorem decompose_negationNormal {test : Expr}
    (nests : scope.nestsWithin (maxNesting + 1) test = true) (id : Nat) (span : Span) :
    scope.decompose id (test.negationNormal true) span =
      { scope.decompose id test span with text := (test.negationNormal true).text } :=
  decompose_of_rewrites (test.rewrites_negationNormal true) nests
    (nestsWithin_negationNormal test true nests) id span

/-- A test that is rewritten by De Morgan's laws and double negation has the condition of the test,
with the text as the only difference: the same atoms on each outcome, and the same variables of parts
that are not understood.  The negation of a test has the atoms of the other outcome.  Both hold of
tests that are followed to their ends, at most 256 levels below the test with flags read through. -/
theorem decompose_rewrites (scope : Scope) {test : Expr}
    (nests : scope.nestsWithin (maxNesting + 1) test = true) (id : Nat) (span : Span) :
    (∀ other : Expr, test.Rewrites other → scope.nestsWithin (maxNesting + 1) other = true →
      scope.decompose id other span = { scope.decompose id test span with text := other.text }) ∧
    (scope.nestsWithin (maxNesting + 1) (.not test) = true →
      (scope.decompose id (.not test) span).onTrue = (scope.decompose id test span).onFalse ∧
      (scope.decompose id (.not test) span).onFalse = (scope.decompose id test span).onTrue ∧
      (scope.decompose id (.not test) span).opaqueSubjects =
        (scope.decompose id test span).opaqueSubjects) := by
  constructor
  · intro other rewrites nests'
    exact decompose_of_rewrites rewrites nests nests' id span
  · intro nestsNegation
    have negated : scope.parts (maxNesting + 1) (.not test) =
        (scope.parts (maxNesting + 1) test).negation :=
      Splits.parts_eq (splits_not.2 ⟨maxNesting + 1, nests, rfl⟩) nestsNegation
    rw [decompose_eq, decompose_eq, negated]
    generalize scope.parts (maxNesting + 1) test = parts
    exact ⟨rfl, rfl, rfl⟩

end Scope

namespace PublicPage

/-- A place where a flag says whether the path is public. -/
def scope : Scope where
  isDefined name := name == "path" || name == "isPublic"
  constant? _ := none
  aliases := StringMap.empty.insert "isPublic"
    (.methodCall (.variable "path") "startsWith" [.literal "/public"])

def climbs : Expr := .methodCall (.variable "path") "contains" [.literal ".."]

/-- Asks that the path is not outside of the public pages, and does not climb. -/
def test : Expr := .not (.or (.not (.variable "isPublic")) climbs)

def plain : Expr := .and (.variable "isPublic") (.not climbs)

/-- Both forms show the same checks, and the negated test shows them on its other outcome. -/
theorem forms_agree :
    scope.decompose 0 plain .zero = { scope.decompose 0 test .zero with text := plain.text } ∧
    (scope.decompose 0 (.not test) .zero).onFalse =
      [⟨"path", .startsWith, .literal "/public", false⟩,
        ⟨"path", .contains, .literal "..", true⟩] := by
  have rewrites : test.Rewrites plain := .trans .notOr (.and .doubleNegation .refl)
  have onTrue : (scope.decompose 0 test .zero).onTrue =
      [⟨"path", .startsWith, .literal "/public", false⟩,
        ⟨"path", .contains, .literal "..", true⟩] := by decide
  have nests : scope.nestsWithin (maxNesting + 1) test = true := by decide
  obtain ⟨rewritten, negated⟩ := Scope.decompose_rewrites scope nests 0 .zero
  obtain ⟨-, onFalse, -⟩ := negated (by decide)
  exact ⟨rewritten plain rewrites (by decide), onFalse.trans onTrue⟩

end PublicPage

end ForwardTaint
