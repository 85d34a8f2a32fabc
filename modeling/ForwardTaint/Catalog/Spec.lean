import ForwardTaint.Json.Record

/-!
Catalogs as they are written: which calls are sources, sinks and sanitizers, and what makes a
procedure a handler of requests.
-/

namespace ForwardTaint

/-- What makes a procedure a handler of requests, which of its parameters come from outside, and
how a returned text begins that is a forward. -/
structure HandlerSpec where
  annotationEnding : String
  parameterTypes : List String
  forwardPrefixes : List String
  deriving DecidableEq

/-- The rules for handlers that a catalog has when it gives none. -/
def HandlerSpec.standard : HandlerSpec := ⟨"Mapping", ["String"], ["forward:"]⟩

/-- One written entry of a catalog. -/
structure CatalogEntrySpec where
  role : String
  method : Option String
  pattern : Option String
  className : Option String
  receiver : Option String
  arguments : List Nat
  kind : Option String
  description : Option String
  deriving DecidableEq

/-- A written catalog. -/
structure CatalogSpec where
  version : Nat
  handler : HandlerSpec
  entries : List CatalogEntrySpec
  deriving DecidableEq

namespace HandlerSpec

def toJson (handler : HandlerSpec) : Json :=
  .object [("annotation_suffix", .string handler.annotationEnding),
    ("param_types", .ofStrings handler.parameterTypes),
    ("forward_prefixes", .ofStrings handler.forwardPrefixes)]

def ofJson? (json : Json) : Option HandlerSpec := do
  let fields ← json.strictFields? ["annotation_suffix", "param_types", "forward_prefixes"]
  return ⟨← fields.orDefault? "annotation_suffix" standard.annotationEnding Json.string?,
    ← fields.orDefault? "param_types" standard.parameterTypes (Json.list? Json.string?),
    ← fields.orDefault? "forward_prefixes" standard.forwardPrefixes (Json.list? Json.string?)⟩

end HandlerSpec

namespace CatalogEntrySpec

/-- The written fields of an entry: absent ones and an empty list of arguments are left out. -/
def toJson (entry : CatalogEntrySpec) : Json :=
  let optional (name : String) (value : Option String) : List (String × Json) :=
    (value.map fun text => (name, Json.string text)).toList
  .object ([("role", .string entry.role)] ++ optional "method" entry.method
    ++ optional "pattern" entry.pattern ++ optional "constructor" entry.className
    ++ optional "receiver" entry.receiver
    ++ (if entry.arguments.isEmpty then []
      else [("args", .array (entry.arguments.map Json.ofNat))])
    ++ optional "kind" entry.kind ++ optional "description" entry.description)

def ofJson? (json : Json) : Option CatalogEntrySpec := do
  let fields ← json.strictFields? ["role", "method", "pattern", "constructor", "receiver", "args",
    "kind", "description"]
  return ⟨← fields.required? "role" Json.string?, ← fields.optional? "method" Json.string?,
    ← fields.optional? "pattern" Json.string?, ← fields.optional? "constructor" Json.string?,
    ← fields.optional? "receiver" Json.string?,
    ← fields.orDefault? "args" [] (Json.list? Json.count?), ← fields.optional? "kind" Json.string?,
    ← fields.optional? "description" Json.string?⟩

end CatalogEntrySpec

namespace CatalogSpec

def toJson (spec : CatalogSpec) : Json :=
  .object [("version", .ofNat spec.version), ("handler", spec.handler.toJson),
    ("entries", .array (spec.entries.map CatalogEntrySpec.toJson))]

def ofJson? (json : Json) : Option CatalogSpec := do
  let fields ← json.strictFields? ["version", "handler", "entries"]
  return ⟨(← fields.required? "version" Json.word32?).toNat,
    ← fields.orDefault? "handler" .standard HandlerSpec.ofJson?,
    ← fields.orDefault? "entries" [] (Json.list? CatalogEntrySpec.ofJson?)⟩

end CatalogSpec

end ForwardTaint
