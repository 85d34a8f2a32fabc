import ForwardTaint.Program.Expr

/-!
Statements of the analyzed language.
-/

namespace ForwardTaint

mutual

/-- A handler of a `try`, with the variable and the type of what it catches. -/
structure Handler where
  parameter : Option String
  exceptionType : Option String
  body : List Stmt

inductive Stmt where
  | declare (name : String) (typeName : Option String) (initial : Option Expr) (span : Span)
  | assign (target : String) (value : Expr) (span : Span)
  | evaluate (expr : Expr) (span : Span)
  | branch (test : Expr) (accepted : List Stmt) (rejected : Option (List Stmt)) (span : Span)
  | loop (test : Expr) (body : List Stmt) (span : Span)
  | block (body : List Stmt)
  | attempt (body : List Stmt) (handlers : List Handler) (final : Option (List Stmt))
  | return (value : Option Expr) (span : Span)

end

namespace Stmt

/-- Places a statement; blocks and attempts have no place of their own. -/
def withSpan (stmt : Stmt) (span : Span) : Stmt :=
  match stmt with
  | .declare name typeName initial _ => .declare name typeName initial span
  | .assign target value _ => .assign target value span
  | .evaluate expr _ => .evaluate expr span
  | .branch test accepted rejected _ => .branch test accepted rejected span
  | .loop test body _ => .loop test body span
  | .return value _ => .return value span
  | .block body => .block body
  | .attempt body handlers final => .attempt body handlers final

mutual

/-- The variables that the statement gives a value to, in the order of its text. -/
def writes : Stmt → List String
  | .declare name _ (some _) _ => [name]
  | .declare _ _ none _ => []
  | .assign target _ _ => [target]
  | .evaluate _ _ | .return _ _ => []
  | .branch _ accepted rejected _ => writesOfAll accepted ++ writesOfOption rejected
  | .loop _ body _ | .block body => writesOfAll body
  | .attempt body handlers final =>
      writesOfAll body ++ writesOfHandlers handlers ++ writesOfOption final

/-- The variables that the statements give a value to. -/
def writesOfAll : List Stmt → List String
  | [] => []
  | stmt :: rest => stmt.writes ++ writesOfAll rest

/-- The variables that statements give a value to, if there are any. -/
def writesOfOption : Option (List Stmt) → List String
  | none => []
  | some stmts => writesOfAll stmts

/-- The variables that the bodies of handlers give a value to. -/
def writesOfHandlers : List Handler → List String
  | [] => []
  | ⟨_, _, body⟩ :: rest => writesOfAll body ++ writesOfHandlers rest

end

/-- The variables that the statements give a value to, each once. -/
def assigned (stmts : List Stmt) : List String := Names.distinct (writesOfAll stmts)

end Stmt

end ForwardTaint
