import ForwardTaint.Catalog.Role
import ForwardTaint.Catalog.Spec
import ForwardTaint.Pattern.Matching
import ForwardTaint.Pattern.Parser
import ForwardTaint.Program.Procedure

/-!
Catalogs ready for use: a call is looked up by its name and the type of its receiver.  A sink
goes before a source, a source before a sanitizer; a call that no entry matches is neutral.
-/

namespace ForwardTaint

/-- Why a written catalog cannot be used. -/
inductive CatalogError where
  | malformed
  | unreadable (path : String)
  | unsupportedVersion (found : Nat)
  | unknownRole (index : Nat) (role : String)
  | unknownSanitizerKind (index : Nat) (kind : String)
  | missingSanitizerKind (index : Nat)
  | missingSinkArguments (index : Nat)
  | ambiguousMatcher (index : Nat)
  | invalidPattern (index : Nat) (pattern : String)
  deriving DecidableEq

/-- The one version of catalogs. -/
def catalogVersion : Nat := 1

namespace CatalogError

def message : CatalogError → String
  | .malformed => "catalog YAML is malformed"
  | .unreadable path => "failed to read catalog " ++ path
  | .unsupportedVersion found =>
      "unsupported catalog version " ++ toString found ++ " (expected "
        ++ toString catalogVersion ++ ")"
  | .unknownRole index role =>
      "entry " ++ toString index ++ ": unknown role '" ++ role
        ++ "' (expected source, sink, sanitizer or neutral)"
  | .unknownSanitizerKind index kind =>
      "entry " ++ toString index ++ ": unknown sanitizer kind '" ++ kind ++ "'"
  | .missingSanitizerKind index =>
      "entry " ++ toString index ++ ": sanitizer entries need a \x60kind\x60"
  | .missingSinkArguments index =>
      "entry " ++ toString index ++ ": sink entries need at least one argument position"
  | .ambiguousMatcher index =>
      "entry " ++ toString index
        ++ ": exactly one of \x60method\x60, \x60pattern\x60 or \x60constructor\x60 is required"
  | .invalidPattern index pattern =>
      "entry " ++ toString index ++ ": invalid pattern '" ++ pattern ++ "'"

end CatalogError

/-- How an entry names its calls. -/
inductive NameMatcher where
  | exactly (name : String)
  | pattern (pattern : Pattern)
  | construction (className : String)

/-- An entry ready for use. -/
structure CatalogEntry where
  matcher : NameMatcher
  receiver : Option String
  role : CallRole

/-- A catalog ready for use, with what it was made from. -/
structure Catalog where
  spec : CatalogSpec
  entries : List CatalogEntry

namespace Catalog

/-- Whether a type is the named one, or one of that name in some package. -/
def isTypeNamed (name typeName : String) : Bool :=
  typeName == name || Text.endsWith ("." ++ name) typeName

/-- The role that an entry gives. -/
def roleOf (index : Nat) (entry : CatalogEntrySpec) : Except CatalogError CallRole :=
  match entry.role with
  | "source" => .ok .source
  | "sink" =>
      if entry.arguments.isEmpty then .error (.missingSinkArguments index)
      else .ok (.sink entry.arguments)
  | "sanitizer" =>
      match entry.kind with
      | some "decode" => .ok (.sanitizer .decode)
      | some "normalize" => .ok (.sanitizer .normalize)
      | some "case_fold" => .ok (.sanitizer .caseFold)
      | some kind => .error (.unknownSanitizerKind index kind)
      | none => .error (.missingSanitizerKind index)
  | "neutral" => .ok .neutral
  | role => .error (.unknownRole index role)

/-- How an entry names its calls, and the type of the receiver that it asks for.  A qualified
method name asks for the type in front of it unless the entry gives another. -/
def matcherOf (index : Nat) (entry : CatalogEntrySpec) :
    Except CatalogError (NameMatcher × Option String) :=
  match entry.method, entry.pattern, entry.className with
  | some method, none, none =>
      match Text.splitAtLast? '.' method.toList with
      | some (typeName, name) =>
          .ok (.exactly (String.ofList name),
            some (entry.receiver.getD (String.ofList typeName)))
      | none => .ok (.exactly method, entry.receiver)
  | none, some text, none =>
      match Pattern.ofText? text with
      | some pattern => .ok (.pattern pattern, entry.receiver)
      | none => .error (.invalidPattern index text)
  | none, none, some className => .ok (.construction className, entry.receiver)
  | _, _, _ => .error (.ambiguousMatcher index)

/-- Makes an entry ready for use; its role is looked at first. -/
def compileEntry (index : Nat) (entry : CatalogEntrySpec) : Except CatalogError CatalogEntry := do
  let role ← roleOf index entry
  let (matcher, receiver) ← matcherOf index entry
  return ⟨matcher, receiver, role⟩

/-- Makes entries ready for use, the first of which has the given number. -/
def compileEntries (index : Nat) :
    List CatalogEntrySpec → Except CatalogError (List CatalogEntry)
  | [] => .ok []
  | entry :: rest => do
      let entry ← compileEntry index entry
      return entry :: (← compileEntries (index + 1) rest)

/-- Makes a catalog ready for use. -/
def compile (spec : CatalogSpec) : Except CatalogError Catalog :=
  if spec.version ≠ catalogVersion then .error (.unsupportedVersion spec.version)
  else do return ⟨spec, ← compileEntries 0 spec.entries⟩

end Catalog

namespace CatalogEntry

/-- Whether the entry names the call. -/
def namesCall (entry : CatalogEntry) (signature : CallSignature) : Bool :=
  match entry.matcher with
  | .construction className =>
      signature.isConstructor && Catalog.isTypeNamed className signature.name
  | .exactly name => !signature.isConstructor && signature.name == name
  | .pattern pattern => !signature.isConstructor && pattern.occursIn signature.name

/-- Whether the receiver of the call has the type that the entry asks for. -/
def acceptsReceiver (entry : CatalogEntry) (signature : CallSignature) : Bool :=
  match entry.receiver, signature.receiverType with
  | none, _ => true
  | some expected, some actual => Catalog.isTypeNamed expected actual
  | some _, none => false

def isFor (entry : CatalogEntry) (signature : CallSignature) : Bool :=
  entry.namesCall signature && entry.acceptsReceiver signature

/-- The positions of a sink that a call with so many arguments has. -/
def sinkArguments? (entry : CatalogEntry) (arity : Nat) : Option (List Nat) :=
  match entry.role with
  | .sink arguments =>
      let present := arguments.filter (· < arity)
      if present.isEmpty then none else some present
  | _ => none

/-- The kind of sanitizer that the entry is for. -/
def sanitizer? (entry : CatalogEntry) : Option SanitizerKind :=
  match entry.role with
  | .sanitizer kind => some kind
  | _ => none

end CatalogEntry

namespace Catalog

/-- The role of a call. -/
def classify (catalog : Catalog) (signature : CallSignature) : CallRole :=
  let found := catalog.entries.filter fun entry => entry.isFor signature
  match found.findSome? fun entry => entry.sinkArguments? signature.arity with
  | some arguments => .sink arguments
  | none =>
      if found.any fun entry => entry.role.isSource then .source
      else match found.findSome? CatalogEntry.sanitizer? with
        | some kind => .sanitizer kind
        | none => .neutral

/-- Whether a procedure handles requests. -/
def isRequestHandler (catalog : Catalog) (procedure : Procedure) : Bool :=
  procedure.hasAnnotationEnding catalog.spec.handler.annotationEnding

/-- Whether a parameter of a procedure comes from a request. -/
def isHandlerSource (catalog : Catalog) (procedure : Procedure) (parameter : Parameter) : Bool :=
  catalog.isRequestHandler procedure
    && catalog.spec.handler.parameterTypes.any fun name => isTypeNamed name parameter.typeName

/-- Whether a returned text that begins with the literal is a forward. -/
def isForwardPrefix (catalog : Catalog) (literal : String) : Bool :=
  catalog.spec.handler.forwardPrefixes.any fun start => Text.beginsWith start literal

end Catalog

end ForwardTaint
