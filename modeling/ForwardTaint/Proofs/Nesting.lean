import ForwardTaint.Program.Stmt
import Mathlib

/-!
How deep the parts of a program lie.  Each statement and each expression is a level around its own
parts; the deepest part lies as deep as there are levels.
-/

namespace ForwardTaint

/-- A statement or an expression. -/
inductive CodePart where
  | statement (stmt : Stmt)
  | expression (expr : Expr)

namespace Expr

/-- The expressions that an expression is made of. -/
def operands : Expr → List Expr
  | .literal _ | .null | .variable _ => []
  | .call receiver _ _ arguments _ => receiver.toList ++ arguments
  | .construct _ arguments _ => arguments
  | .concat operands _ => operands
  | .not operand | .cast _ operand => [operand]
  | .and left right | .or left right | .compare _ left right => [left, right]

mutual

/-- The number of expressions around and including the deepest one. -/
def levels : Expr → Nat
  | .literal _ | .null | .variable _ => 1
  | .call receiver _ _ arguments _ => max (levelsOfOption receiver) (levelsOfAll arguments) + 1
  | .construct _ arguments _ => levelsOfAll arguments + 1
  | .concat operands _ => levelsOfAll operands + 1
  | .not operand | .cast _ operand => operand.levels + 1
  | .and left right | .or left right | .compare _ left right => max left.levels right.levels + 1

/-- The levels of an expression that may be absent. -/
def levelsOfOption : Option Expr → Nat
  | none => 0
  | some expr => expr.levels

/-- The levels of the deepest of the expressions. -/
def levelsOfAll : List Expr → Nat
  | [] => 0
  | expr :: rest => max expr.levels (levelsOfAll rest)

end

end Expr

namespace Stmt

/-- The statements of handlers. -/
def handled (handlers : List Handler) : List Stmt := handlers.flatMap Handler.body

/-- The statements and expressions that a statement is made of. -/
def parts : Stmt → List CodePart
  | .declare _ _ initial _ => initial.toList.map .expression
  | .assign _ value _ => [.expression value]
  | .evaluate expr _ => [.expression expr]
  | .branch test accepted rejected _ =>
      .expression test :: (accepted ++ rejected.getD []).map .statement
  | .loop test body _ => .expression test :: body.map .statement
  | .block body => body.map .statement
  | .attempt body handlers final => (body ++ handled handlers ++ final.getD []).map .statement
  | .return value _ => value.toList.map .expression

mutual

/-- The number of statements and expressions around and including the deepest one. -/
def levels : Stmt → Nat
  | .declare _ _ initial _ => Expr.levelsOfOption initial + 1
  | .assign _ value _ => value.levels + 1
  | .evaluate expr _ => expr.levels + 1
  | .branch test accepted rejected _ =>
      max test.levels (max (levelsOfAll accepted) (levelsOfOption rejected)) + 1
  | .loop test body _ => max test.levels (levelsOfAll body) + 1
  | .block body => levelsOfAll body + 1
  | .attempt body handlers final =>
      max (levelsOfAll body) (max (levelsOfHandlers handlers) (levelsOfOption final)) + 1
  | .return value _ => Expr.levelsOfOption value + 1

/-- The levels of the deepest of the statements. -/
def levelsOfAll : List Stmt → Nat
  | [] => 0
  | stmt :: rest => max stmt.levels (levelsOfAll rest)

/-- The levels of statements that may be absent. -/
def levelsOfOption : Option (List Stmt) → Nat
  | none => 0
  | some stmts => levelsOfAll stmts

/-- The levels of the deepest statement of the handlers. -/
def levelsOfHandlers : List Handler → Nat
  | [] => 0
  | ⟨_, _, body⟩ :: rest => max (levelsOfAll body) (levelsOfHandlers rest)

end

end Stmt

namespace CodePart

/-- The statements and expressions that a part is made of. -/
def parts : CodePart → List CodePart
  | .statement stmt => stmt.parts
  | .expression expr => expr.operands.map .expression

def levels : CodePart → Nat
  | .statement stmt => stmt.levels
  | .expression expr => expr.levels

/-- The part lies in the statements with so many statements and expressions around and including it. -/
inductive LiesAt (body : List Stmt) : Nat → CodePart → Prop
  | top {stmt : Stmt} (member : stmt ∈ body) : LiesAt body 1 (.statement stmt)
  | inside {depth : Nat} {whole part : CodePart} (lies : LiesAt body depth whole)
      (isPart : part ∈ whole.parts) : LiesAt body (depth + 1) part

/-- The levels of the deepest of the parts. -/
def deepest (parts : List CodePart) : Nat := (parts.map levels).foldr max 0

@[simp] theorem deepest_nil : deepest [] = 0 := rfl

@[simp] theorem deepest_cons (part : CodePart) (parts : List CodePart) :
    deepest (part :: parts) = max part.levels (deepest parts) := rfl

@[simp] theorem deepest_append (first second : List CodePart) :
    deepest (first ++ second) = max (deepest first) (deepest second) := by
  induction first with
  | nil => exact (Nat.zero_max _).symm
  | cons part first inductionHypothesis =>
      rw [List.cons_append, deepest_cons, inductionHypothesis, deepest_cons, Nat.max_assoc]

@[simp] theorem deepest_expressions (exprs : List Expr) :
    deepest (exprs.map .expression) = Expr.levelsOfAll exprs := by
  induction exprs with
  | nil => rfl
  | cons expr exprs inductionHypothesis =>
      rw [List.map_cons, deepest_cons, inductionHypothesis, Expr.levelsOfAll, levels]

@[simp] theorem deepest_statements (stmts : List Stmt) :
    deepest (stmts.map .statement) = Stmt.levelsOfAll stmts := by
  induction stmts with
  | nil => rfl
  | cons stmt stmts inductionHypothesis =>
      rw [List.map_cons, deepest_cons, inductionHypothesis, Stmt.levelsOfAll, levels]

theorem le_deepest {part : CodePart} {parts : List CodePart} (member : part ∈ parts) :
    part.levels ≤ deepest parts := by
  induction parts with
  | nil => exact absurd member List.not_mem_nil
  | cons first parts inductionHypothesis =>
      rw [deepest_cons]
      rcases List.mem_cons.1 member with rfl | later
      · exact Nat.le_max_left _ _
      · exact (inductionHypothesis later).trans (Nat.le_max_right _ _)

theorem exists_deepest {parts : List CodePart} (some : 0 < deepest parts) :
    ∃ part ∈ parts, part.levels = deepest parts := by
  induction parts with
  | nil => exact absurd some (Nat.lt_irrefl 0)
  | cons first parts inductionHypothesis =>
      rw [deepest_cons] at some ⊢
      rcases Nat.le_total (deepest parts) first.levels with deeper | deeper
      · exact ⟨first, List.mem_cons_self, (Nat.max_eq_left deeper).symm⟩
      · rw [Nat.max_eq_right deeper] at some ⊢
        obtain ⟨part, member, same⟩ := inductionHypothesis some
        exact ⟨part, List.mem_cons_of_mem _ member, same⟩

end CodePart

theorem Expr.levelsOfOption_eq (expr : Option Expr) :
    levelsOfOption expr = levelsOfAll expr.toList := by
  cases expr with
  | none => rfl
  | some expr => simp [levelsOfOption, levelsOfAll]

theorem Expr.levelsOfAll_append (first second : List Expr) :
    levelsOfAll (first ++ second) = max (levelsOfAll first) (levelsOfAll second) := by
  rw [← CodePart.deepest_expressions, List.map_append]
  simp

theorem Stmt.levelsOfAll_append (first second : List Stmt) :
    levelsOfAll (first ++ second) = max (levelsOfAll first) (levelsOfAll second) := by
  rw [← CodePart.deepest_statements, List.map_append]
  simp

theorem Stmt.levelsOfOption_eq (stmts : Option (List Stmt)) :
    levelsOfOption stmts = levelsOfAll (stmts.getD []) := by
  cases stmts <;> rfl

theorem Stmt.levelsOfHandlers_eq (handlers : List Handler) :
    levelsOfHandlers handlers = levelsOfAll (handled handlers) := by
  induction handlers with
  | nil => rfl
  | cons handler handlers inductionHypothesis =>
      obtain ⟨parameter, exceptionType, body⟩ := handler
      rw [levelsOfHandlers, inductionHypothesis, handled, handled, List.flatMap_cons,
        levelsOfAll_append]

namespace CodePart

/-- A part is one level around its own parts. -/
theorem levels_eq (part : CodePart) : part.levels = deepest part.parts + 1 := by
  cases part with
  | expression expr =>
      rw [levels, parts, deepest_expressions]
      cases expr <;> simp [Expr.levels, Expr.operands, Expr.levelsOfAll, Expr.levelsOfAll_append,
        Expr.levelsOfOption_eq]
  | statement stmt =>
      rw [levels, parts]
      cases stmt <;> simp [Stmt.levels, Stmt.parts, Stmt.levelsOfOption_eq,
        Stmt.levelsOfHandlers_eq, Expr.levelsOfOption_eq, levels]

/-- No part lies deeper than there are levels. -/
theorem LiesAt.le_levels {body : List Stmt} {depth : Nat} {part : CodePart}
    (lies : LiesAt body depth part) : depth + part.levels ≤ Stmt.levelsOfAll body + 1 := by
  induction lies with
  | top member =>
      have among := le_deepest (List.mem_map_of_mem (f := statement) member)
      rw [deepest_statements] at among
      omega
  | @inside depth whole part lies isPart inductionHypothesis =>
      have among := le_deepest isPart
      rw [levels_eq whole] at inductionHypothesis
      omega

/-- Around a part there is one that lies as deep as the part has levels. -/
theorem LiesAt.exists_innermost {body : List Stmt} {depth : Nat} {part : CodePart}
    (lies : LiesAt body depth part) :
    ∃ innermost, LiesAt body (depth + deepest part.parts) innermost := by
  induction levels : deepest part.parts generalizing depth part with
  | zero => exact ⟨part, lies⟩
  | succ count inductionHypothesis =>
      obtain ⟨inner, isPart, deep⟩ := exists_deepest (by omega : 0 < deepest part.parts)
      rw [levels_eq, levels, Nat.succ_inj] at deep
      obtain ⟨innermost, innermostLies⟩ := inductionHypothesis (lies.inside isPart) deep
      exact ⟨innermost, by rwa [Nat.add_assoc, Nat.add_comm 1] at innermostLies⟩

/-- Some part lies deeper than a bound exactly if there are more levels. -/
theorem exists_liesAt_iff (body : List Stmt) (bound : Nat) :
    (∃ depth part, LiesAt body depth part ∧ bound < depth) ↔ bound < Stmt.levelsOfAll body := by
  constructor
  · rintro ⟨depth, part, lies, deep⟩
    have atMost := lies.le_levels
    rw [levels_eq] at atMost
    omega
  · intro deep
    rw [← deepest_statements] at deep
    obtain ⟨part, member, same⟩ := exists_deepest (Nat.zero_lt_of_lt deep)
    obtain ⟨stmt, isTop, rfl⟩ := List.mem_map.1 member
    obtain ⟨innermost, lies⟩ := (LiesAt.top isTop).exists_innermost
    refine ⟨_, innermost, lies, ?_⟩
    rw [← same, levels_eq] at deep
    omega

end CodePart

end ForwardTaint
