import ForwardTaint.Program.Stmt
import ForwardTaint.StringMap

/-!
Procedures and the units that hold them.
-/

namespace ForwardTaint

structure Parameter where
  name : String
  typeName : String
  annotations : List String

/-- A procedure; its own constants hide those of its unit. -/
structure Procedure where
  name : String
  annotations : List String
  parameters : List Parameter
  returnType : Option String
  constants : StringMap String
  body : List Stmt
  span : Span

namespace Procedure

/-- The procedure without parameters and statements. -/
def named (name : String) : Procedure := ⟨name, [], [], none, .empty, [], .zero⟩

/-- The name with the types of the parameters, which tells overloads apart. -/
def signature (procedure : Procedure) : String :=
  procedure.name ++ "("
    ++ String.intercalate ", " (procedure.parameters.map Parameter.typeName) ++ ")"

/-- Whether the last part of an annotation's name has the ending. -/
def hasAnnotationEnding (procedure : Procedure) (ending : String) : Bool :=
  procedure.annotations.any fun annotation =>
    Text.endsWith ending (Text.lastSegment annotation)

end Procedure

/-- A compilation unit: named constants and procedures. -/
structure CompilationUnit where
  name : String
  constants : StringMap String
  procedures : List Procedure

namespace CompilationUnit

/-- The unit without constants and procedures. -/
def named (name : String) : CompilationUnit := ⟨name, .empty, []⟩

/-- The first procedure of a name. -/
def procedure? (compilationUnit : CompilationUnit) (name : String) : Option Procedure :=
  compilationUnit.procedures.find? fun procedure => procedure.name == name

end CompilationUnit

end ForwardTaint
