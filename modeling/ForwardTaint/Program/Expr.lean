import ForwardTaint.Names
import ForwardTaint.Program.Span
import ForwardTaint.Text.Affix
import ForwardTaint.Text.Quoted

/-!
Expressions of the analyzed language: string values, calls, and the boolean tests over them.
-/

namespace ForwardTaint

/-- The direction of a comparison. -/
inductive Comparison where
  | equal
  | different
  deriving DecidableEq

/-- The sign of a comparison. -/
def Comparison.sign : Comparison → String
  | .equal => "=="
  | .different => "!="

/-- An expression; a call without a receiver is static when it names a type. -/
inductive Expr where
  | literal (value : String)
  | null
  | variable (name : String)
  | call (receiver : Option Expr) (receiverType : Option String) (method : String)
      (arguments : List Expr) (span : Span)
  | construct (className : String) (arguments : List Expr) (span : Span)
  | concat (operands : List Expr) (span : Span)
  | not (operand : Expr)
  | and (left right : Expr)
  | or (left right : Expr)
  | compare (comparison : Comparison) (left right : Expr)
  | cast (typeName : String) (operand : Expr)
  deriving Inhabited

namespace Expr

mutual

/-- Whether two expressions are the same. -/
def same : Expr → Expr → Bool
  | .literal first, .literal second => first == second
  | .null, .null => true
  | .variable first, .variable second => first == second
  | .call receiver receiverType method arguments span,
      .call receiver' receiverType' method' arguments' span' =>
      sameOption receiver receiver' && receiverType == receiverType' && method == method'
        && sameAll arguments arguments' && span == span'
  | .construct className arguments span, .construct className' arguments' span' =>
      className == className' && sameAll arguments arguments' && span == span'
  | .concat operands span, .concat operands' span' => sameAll operands operands' && span == span'
  | .not operand, .not operand' => same operand operand'
  | .and left right, .and left' right' => same left left' && same right right'
  | .or left right, .or left' right' => same left left' && same right right'
  | .compare comparison left right, .compare comparison' left' right' =>
      comparison == comparison' && same left left' && same right right'
  | .cast typeName operand, .cast typeName' operand' =>
      typeName == typeName' && same operand operand'
  | _, _ => false

/-- Whether two expressions are both absent or the same. -/
def sameOption : Option Expr → Option Expr → Bool
  | none, none => true
  | some first, some second => same first second
  | _, _ => false

/-- Whether two lists hold the same expressions. -/
def sameAll : List Expr → List Expr → Bool
  | [], [] => true
  | first :: firsts, second :: seconds => same first second && sameAll firsts seconds
  | _, _ => false

end

mutual

theorem eq_of_same : ∀ {first second : Expr}, same first second = true → first = second
  | .literal _, second, h => by cases second <;> simp_all [same]
  | .null, second, h => by cases second <;> simp_all [same]
  | .variable _, second, h => by cases second <;> simp_all [same]
  | .call receiver _ _ arguments _, second, h => by
      cases second <;> simp only [same, Bool.and_eq_true, Bool.false_eq_true] at h
      obtain ⟨⟨⟨⟨receivers, types⟩, methods⟩, lists⟩, spans⟩ := h
      rw [eq_of_sameOption receivers, eq_of_sameAll lists, eq_of_beq types, eq_of_beq methods,
        eq_of_beq spans]
  | .construct _ arguments _, second, h => by
      cases second <;> simp only [same, Bool.and_eq_true, Bool.false_eq_true] at h
      obtain ⟨⟨names, lists⟩, spans⟩ := h
      rw [eq_of_beq names, eq_of_sameAll lists, eq_of_beq spans]
  | .concat operands _, second, h => by
      cases second <;> simp only [same, Bool.and_eq_true, Bool.false_eq_true] at h
      rw [eq_of_sameAll h.1, eq_of_beq h.2]
  | .not operand, second, h => by
      cases second <;> simp only [same, Bool.false_eq_true] at h
      rw [eq_of_same h]
  | .and left right, second, h => by
      cases second <;> simp only [same, Bool.and_eq_true, Bool.false_eq_true] at h
      rw [eq_of_same h.1, eq_of_same h.2]
  | .or left right, second, h => by
      cases second <;> simp only [same, Bool.and_eq_true, Bool.false_eq_true] at h
      rw [eq_of_same h.1, eq_of_same h.2]
  | .compare _ left right, second, h => by
      cases second <;> simp only [same, Bool.and_eq_true, Bool.false_eq_true] at h
      rw [eq_of_beq h.1.1, eq_of_same h.1.2, eq_of_same h.2]
  | .cast _ operand, second, h => by
      cases second <;> simp only [same, Bool.and_eq_true, Bool.false_eq_true] at h
      rw [eq_of_beq h.1, eq_of_same h.2]

theorem eq_of_sameOption : ∀ {first second : Option Expr},
    sameOption first second = true → first = second
  | none, second, h => by cases second <;> simp_all [sameOption]
  | some first, second, h => by
      cases second <;> simp only [sameOption, Bool.false_eq_true] at h
      rw [eq_of_same h]

theorem eq_of_sameAll : ∀ {firsts seconds : List Expr},
    sameAll firsts seconds = true → firsts = seconds
  | [], seconds, h => by cases seconds <;> simp_all [sameAll]
  | first :: firsts, seconds, h => by
      cases seconds <;> simp only [sameAll, Bool.and_eq_true, Bool.false_eq_true] at h
      rw [eq_of_same h.1, eq_of_sameAll h.2]

end

mutual

theorem same_refl : ∀ expr : Expr, same expr expr = true
  | .literal _ | .null | .variable _ => by simp [same]
  | .call receiver _ _ arguments _ => by
      simp [same, sameOption_refl receiver, sameAll_refl arguments]
  | .construct _ arguments _ => by simp [same, sameAll_refl arguments]
  | .concat operands _ => by simp [same, sameAll_refl operands]
  | .not operand => by simp [same, same_refl operand]
  | .and left right => by simp [same, same_refl left, same_refl right]
  | .or left right => by simp [same, same_refl left, same_refl right]
  | .compare _ left right => by simp [same, same_refl left, same_refl right]
  | .cast _ operand => by simp [same, same_refl operand]

theorem sameOption_refl : ∀ expr : Option Expr, sameOption expr expr = true
  | none => rfl
  | some expr => by simp [sameOption, same_refl expr]

theorem sameAll_refl : ∀ exprs : List Expr, sameAll exprs exprs = true
  | [] => rfl
  | expr :: rest => by simp [sameAll, same_refl expr, sameAll_refl rest]

end

instance : DecidableEq Expr := fun first second =>
  if alike : same first second = true then .isTrue (eq_of_same alike)
  else .isFalse fun equal => alike (equal ▸ same_refl first)

/-- A call of a method of a value. -/
def methodCall (receiver : Expr) (method : String) (arguments : List Expr) : Expr :=
  .call (some receiver) none method arguments .zero

/-- A call of a method of a value whose type is known. -/
def typedCall (receiver : Expr) (receiverType method : String) (arguments : List Expr) : Expr :=
  .call (some receiver) (some receiverType) method arguments .zero

/-- A call of a method of a type. -/
def staticCall (receiverType method : String) (arguments : List Expr) : Expr :=
  .call none (some receiverType) method arguments .zero

/-- A call of a method of the enclosing object. -/
def localCall (method : String) (arguments : List Expr) : Expr :=
  .call none none method arguments .zero

mutual

/-- The expression as it would be written. -/
def text : Expr → String
  | .literal value => Text.quoted value
  | .null => "null"
  | .variable name => name
  | .call (some receiver) _ method arguments _ =>
      receiver.text ++ "." ++ method ++ "(" ++ String.intercalate ", " (texts arguments) ++ ")"
  | .call none (some receiverType) method arguments _ =>
      Text.lastSegment receiverType ++ "." ++ method
        ++ "(" ++ String.intercalate ", " (texts arguments) ++ ")"
  | .call none none method arguments _ =>
      method ++ "(" ++ String.intercalate ", " (texts arguments) ++ ")"
  | .construct className arguments _ =>
      "new " ++ className ++ "(" ++ String.intercalate ", " (texts arguments) ++ ")"
  | .concat operands _ => String.intercalate " + " (texts operands)
  | .not operand => "!" ++ operand.text
  | .and left right => "(" ++ left.text ++ " && " ++ right.text ++ ")"
  | .or left right => "(" ++ left.text ++ " || " ++ right.text ++ ")"
  | .compare comparison left right => left.text ++ " " ++ comparison.sign ++ " " ++ right.text
  | .cast typeName operand => "((" ++ typeName ++ ") " ++ operand.text ++ ")"

/-- The written form of each expression. -/
def texts : List Expr → List String
  | [] => []
  | expr :: rest => expr.text :: texts rest

end

/-- The place of the expression; a test stands where its first operand does. -/
def span : Expr → Span
  | .call _ _ _ _ span | .construct _ _ span | .concat _ span => span
  | .not operand | .cast _ operand => operand.span
  | .and left _ | .or left _ | .compare _ left _ => left.span
  | .literal _ | .null | .variable _ => .zero

/-- Places a call, a construction or a concatenation. -/
def withSpan (expr : Expr) (span : Span) : Expr :=
  match expr with
  | .call receiver receiverType method arguments _ =>
      .call receiver receiverType method arguments span
  | .construct className arguments _ => .construct className arguments span
  | .concat operands _ => .concat operands span
  | expr => expr

/-- The variable that the expression is, seen through casts. -/
def asVariable : Expr → Option String
  | .variable name => some name
  | .cast _ operand => operand.asVariable
  | _ => none

/-- The text that the expression is. -/
def asLiteral : Expr → Option String
  | .literal value => some value
  | _ => none

mutual

/-- The variables that the expression reads, from left to right. -/
def reads : Expr → List String
  | .variable name => [name]
  | .literal _ | .null => []
  | .call (some receiver) _ _ arguments _ => receiver.reads ++ readsOfAll arguments
  | .call none _ _ arguments _ => readsOfAll arguments
  | .construct _ arguments _ => readsOfAll arguments
  | .concat operands _ => readsOfAll operands
  | .not operand | .cast _ operand => operand.reads
  | .and left right | .or left right | .compare _ left right => left.reads ++ right.reads

/-- The variables that the expressions read, one expression after the other. -/
def readsOfAll : List Expr → List String
  | [] => []
  | expr :: rest => expr.reads ++ readsOfAll rest

end

/-- The variables that the expression reads, each where it is first read. -/
def variableNames (expr : Expr) : List String := Names.distinct expr.reads

end Expr

end ForwardTaint
