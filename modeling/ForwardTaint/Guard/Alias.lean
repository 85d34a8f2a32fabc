import ForwardTaint.Guard.Condition
import ForwardTaint.Program.Stmt
import ForwardTaint.StringMap

/-!
Flags that stand for a test.  A table binds a flag to the test that it holds the value of; the
binding lasts until the flag or a variable that the test reads is written.
-/

namespace ForwardTaint

/-- Whether an expression is a test of string values: a check, a comparison with nothing, or a
combination of such tests. -/
def Expr.isPredicate : Expr → Bool
  | .call (some _) _ method arguments _ =>
      arguments.length == 1 && (GuardOperator.ofMethod? method).isSome
  | .not operand => operand.isPredicate
  | .and left right | .or left right => left.isPredicate && right.isPredicate
  | .compare _ left right => left == .null || right == .null
  | _ => false

/-- The flags that stand for a test, each with its test. -/
abbrev AliasTable := StringMap Expr

namespace AliasTable

/-- The bindings that outlast a write of a variable. -/
def invalidate (table : AliasTable) (name : String) : AliasTable :=
  table.filter fun flag predicate => flag != name && !predicate.variableNames.contains name

/-- The bindings after a flag is given a value. -/
def assign (table : AliasTable) (flag : String) (value : Expr) : AliasTable :=
  let kept := invalidate table flag
  if value.isPredicate && !value.variableNames.contains flag then kept.insert flag value else kept

/-- The bindings of both tables. -/
def intersect (first second : AliasTable) : AliasTable :=
  first.filter fun flag predicate => second.get? flag == some predicate

/-- Applies `next` until nothing changes, at most so many times. -/
def settle (next : AliasTable → AliasTable) : Nat → AliasTable → AliasTable
  | 0, table => table
  | rounds + 1, table =>
      let reached := next table
      if reached = table then table else settle next rounds reached

/-- The bindings at the head of a loop whose body has the given effect: those that hold on entry
and, however often the body ran, at its end. -/
def atLoopHead (entry : AliasTable) (body : AliasTable → AliasTable) : AliasTable :=
  settle (fun table => intersect entry (body table)) (entry.size + 1) entry

mutual

/-- The bindings after a statement. -/
def afterStmt : Stmt → AliasTable → AliasTable
  | .declare name _ (some value) _, table => assign table name value
  | .declare name _ none _, table => invalidate table name
  | .assign target value _, table => assign table target value
  | .evaluate _ _, table | .return _ _, table => table
  | .branch _ accepted rejected _, table =>
      intersect (after accepted table) (afterOption rejected table)
  | .loop _ body _, table => atLoopHead table (after body)
  | .block body, table => after body table
  | .attempt body handlers final, table =>
      let atEnd := after body table
      afterOption final (afterHandlers handlers (intersect table atEnd) atEnd)

/-- The bindings after statements. -/
def after : List Stmt → AliasTable → AliasTable
  | [], table => table
  | stmt :: rest, table => after rest (afterStmt stmt table)

/-- The bindings after statements that may be absent. -/
def afterOption : Option (List Stmt) → AliasTable → AliasTable
  | none, table => table
  | some stmts, table => after stmts table

/-- The bindings that hold after each handler, which starts from `entry`, and in `joined`. -/
def afterHandlers : List Handler → AliasTable → AliasTable → AliasTable
  | [], _, joined => joined
  | ⟨parameter, _, body⟩ :: rest, entry, joined =>
      let start := match parameter with
        | some name => invalidate entry name
        | none => entry
      afterHandlers rest entry (intersect joined (after body start))

end

end AliasTable

end ForwardTaint
