import ForwardTaint.Names
import ForwardTaint.Program.Span
import ForwardTaint.Text.Quoted

/-!
Tests of string values, taken apart.  For each outcome of a test a condition lists the atomic
checks that surely hold then; variables that are read by parts that cannot be taken apart are kept
by name.
-/

namespace ForwardTaint

/-- The checks that are understood. -/
inductive GuardOperator where
  | startsWith
  | contains
  | equals
  | equalsIgnoreCase
  | isNull
  deriving DecidableEq

namespace GuardOperator

/-- The name of the method that makes the check. -/
def methodName : GuardOperator → String
  | .startsWith => "startsWith"
  | .contains => "contains"
  | .equals => "equals"
  | .equalsIgnoreCase => "equalsIgnoreCase"
  | .isNull => "isNull"

/-- The check that a method makes; comparing with nothing is no method. -/
def ofMethod? (method : String) : Option GuardOperator :=
  [startsWith, contains, equals, equalsIgnoreCase].find? fun operator =>
    operator.methodName == method

end GuardOperator

/-- What a check compares with. -/
inductive GuardOperand where
  | literal (value : String)
  | constant (name value : String)
  | variable (name : String)
  | other (text : String)
  | none
  deriving DecidableEq

namespace GuardOperand

/-- The text that the operand is known to be. -/
def knownValue? : GuardOperand → Option String
  | .literal value | .constant _ value => some value
  | .variable _ | .other _ | .none => Option.none

def text : GuardOperand → String
  | .literal value => Text.quoted value
  | .constant name _ | .variable name => name
  | .other text => text
  | .none => ""

end GuardOperand

/-- One check of a subject, possibly negated. -/
structure GuardAtom where
  subject : String
  operator : GuardOperator
  operand : GuardOperand
  negated : Bool
  deriving DecidableEq

namespace GuardAtom

/-- Whether the atom asks for a percent sign. -/
def isEncodingCheck (atom : GuardAtom) : Bool :=
  atom.operator == .contains && atom.operand.knownValue? == some "%"

def text (atom : GuardAtom) : String :=
  match atom.operator with
  | .isNull => atom.subject ++ (if atom.negated then " != null" else " == null")
  | operator =>
      (if atom.negated then "!" else "") ++ atom.subject ++ "." ++ operator.methodName ++ "("
        ++ atom.operand.text ++ ")"

end GuardAtom

/-- A test taken apart: the atoms that hold on each outcome, the variables of parts that are not
understood, and the flag that the test was read through. -/
structure GuardCondition where
  id : Nat
  text : String
  span : Span
  onTrue : List GuardAtom
  onFalse : List GuardAtom
  opaqueSubjects : List String
  flagName : Option String
  deriving DecidableEq

namespace GuardCondition

/-- The number by which the condition is referred to. -/
def idText (id : Nat) : String := "g" ++ toString id

def label (guard : GuardCondition) : String := idText guard.id ++ " [" ++ guard.text ++ "]"

/-- Whether every part of the test is understood. -/
def isDecomposable (guard : GuardCondition) : Bool := guard.opaqueSubjects.isEmpty

/-- The atoms that hold on an outcome. -/
def atoms (guard : GuardCondition) (outcome : Bool) : List GuardAtom :=
  if outcome then guard.onTrue else guard.onFalse

/-- The atoms that hold of one variable on an outcome. -/
def atomsOf (guard : GuardCondition) (subject : String) (outcome : Bool) : List GuardAtom :=
  (guard.atoms outcome).filter fun atom => atom.subject == subject

/-- The variables that an outcome says something of, those of atoms first. -/
def subjects (guard : GuardCondition) (outcome : Bool) : List String :=
  Names.distinct ((guard.atoms outcome).map GuardAtom.subject ++ guard.opaqueSubjects)

/-- Whether a part that is not understood reads the variable. -/
def isOpaqueFor (guard : GuardCondition) (subject : String) : Bool :=
  guard.opaqueSubjects.contains subject

end GuardCondition

end ForwardTaint
