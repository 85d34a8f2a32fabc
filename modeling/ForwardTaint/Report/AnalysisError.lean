import ForwardTaint.Json.Record

/-!
Errors of the analysis as they are reported to its users.
-/

namespace ForwardTaint

/-- What an error comes from. -/
inductive AnalysisErrorKind where
  | invalidInput
  | catalog
  | unstable
  | timeout
  | internal
  deriving DecidableEq

namespace AnalysisErrorKind

/-- The written name of the kind. -/
def text : AnalysisErrorKind → String
  | .invalidInput => "InvalidInput"
  | .catalog => "Catalog"
  | .unstable => "Unstable"
  | .timeout => "Timeout"
  | .internal => "Internal"

def choices : List (String × AnalysisErrorKind) :=
  [invalidInput, catalog, unstable, timeout, internal].map fun kind => (kind.text, kind)

end AnalysisErrorKind

/-- An error with a message and the place where it arose. -/
structure AnalysisError where
  kind : AnalysisErrorKind
  message : String
  context : Option String
  deriving DecidableEq

namespace AnalysisError

def text (error : AnalysisError) : String :=
  let context := match error.context with
    | some context => " (context: " ++ context ++ ")"
    | none => ""
  "[" ++ error.kind.text ++ "] " ++ error.message ++ context

def toJson (error : AnalysisError) : Json :=
  .object [("kind", .string error.kind.text), ("message", .string error.message),
    ("context", .ofOption .string error.context)]

def ofJson? (json : Json) : Option AnalysisError := do
  let fields ← json.fields? ["kind", "message", "context"]
  return ⟨← fields.required? "kind" (Json.choice? AnalysisErrorKind.choices),
    ← fields.required? "message" Json.string?, ← fields.placed? "context" Json.string?⟩

end AnalysisError

end ForwardTaint
