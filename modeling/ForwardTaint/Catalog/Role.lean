/-!
The part that a call plays for taint.
-/

namespace ForwardTaint

/-- Operations that change how a value is encoded, normalized or cased. -/
inductive SanitizerKind where
  | decode
  | normalize
  | caseFold
  deriving DecidableEq

def SanitizerKind.text : SanitizerKind → String
  | .decode => "Decode"
  | .normalize => "Normalize"
  | .caseFold => "CaseFold"

/-- The role of a call; a sink names the arguments whose taint is a finding. -/
inductive CallRole where
  | source
  | sink (arguments : List Nat)
  | sanitizer (kind : SanitizerKind)
  | neutral
  deriving DecidableEq

namespace CallRole

def isSource (role : CallRole) : Bool := role == .source

def isSink : CallRole → Bool
  | .sink _ => true
  | _ => false

def text : CallRole → String
  | .source => "SOURCE"
  | .sink arguments => "SINK[" ++ String.intercalate ", " (arguments.map toString) ++ "]"
  | .sanitizer kind => "SANITIZER(" ++ kind.text ++ ")"
  | .neutral => "NEUTRAL"

end CallRole

/-- What is seen of a call: a method with the type of its receiver, or a constructor, and the
number of arguments. -/
structure CallSignature where
  receiverType : Option String
  name : String
  arity : Nat
  isConstructor : Bool

namespace CallSignature

/-- The signature of a method call. -/
def method (receiverType : Option String) (name : String) (arity : Nat) : CallSignature :=
  ⟨receiverType, name, arity, false⟩

/-- The signature of a construction. -/
def constructor (className : String) (arity : Nat) : CallSignature :=
  ⟨none, className, arity, true⟩

def text (signature : CallSignature) : String :=
  let counted := signature.name ++ "/" ++ toString signature.arity
  if signature.isConstructor then "new " ++ counted
  else match signature.receiverType with
    | some receiverType => receiverType ++ "." ++ counted
    | none => counted

end CallSignature

end ForwardTaint
