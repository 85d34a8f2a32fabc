import ForwardTaint.Catalog.Catalog
import ForwardTaint.Yaml.Parser
import ForwardTaint.Yaml.Printer
import ForwardTaint.Yaml.Record

/-!
Catalogs as the text of files.
-/

namespace ForwardTaint

/-- Texts as a sequence. -/
def Yaml.ofStrings (texts : List String) : Yaml := .sequence (texts.map Yaml.ofString)

namespace HandlerSpec

def toYaml (handler : HandlerSpec) : Yaml :=
  .mapping [(.ofString "annotation_suffix", .ofString handler.annotationEnding),
    (.ofString "param_types", .ofStrings handler.parameterTypes),
    (.ofString "forward_prefixes", .ofStrings handler.forwardPrefixes)]

def ofYaml? (yaml : Yaml) : Option HandlerSpec := do
  let fields ← yaml.fields? ["annotation_suffix", "param_types", "forward_prefixes"]
  return ⟨← fields.orDefault? "annotation_suffix" standard.annotationEnding Yaml.string?,
    ← fields.orDefault? "param_types" standard.parameterTypes (Yaml.list? Yaml.string?),
    ← fields.orDefault? "forward_prefixes" standard.forwardPrefixes (Yaml.list? Yaml.string?)⟩

end HandlerSpec

namespace CatalogEntrySpec

/-- The written fields of an entry: absent ones and an empty list of arguments are left out. -/
def toYaml (entry : CatalogEntrySpec) : Yaml :=
  let optional (name : String) (value : Option String) : List (Yaml × Yaml) :=
    (value.map fun text => (Yaml.ofString name, Yaml.ofString text)).toList
  .mapping (optional "role" (some entry.role) ++ optional "method" entry.method
    ++ optional "pattern" entry.pattern ++ optional "constructor" entry.className
    ++ optional "receiver" entry.receiver
    ++ (if entry.arguments.isEmpty then []
      else [(.ofString "args", .sequence (entry.arguments.map Yaml.ofNat))])
    ++ optional "kind" entry.kind ++ optional "description" entry.description)

def ofYaml? (yaml : Yaml) : Option CatalogEntrySpec := do
  let fields ← yaml.fields? ["role", "method", "pattern", "constructor", "receiver", "args",
    "kind", "description"]
  return ⟨← fields.required? "role" Yaml.string?, ← fields.optional? "method" Yaml.string?,
    ← fields.optional? "pattern" Yaml.string?, ← fields.optional? "constructor" Yaml.string?,
    ← fields.optional? "receiver" Yaml.string?,
    ← fields.orDefault? "args" [] (Yaml.list? Yaml.count?), ← fields.optional? "kind" Yaml.string?,
    ← fields.optional? "description" Yaml.string?⟩

end CatalogEntrySpec

namespace CatalogSpec

def toYaml (spec : CatalogSpec) : Yaml :=
  .mapping [(.ofString "version", .ofNat spec.version), (.ofString "handler", spec.handler.toYaml),
    (.ofString "entries", .sequence (spec.entries.map CatalogEntrySpec.toYaml))]

def ofYaml? (yaml : Yaml) : Option CatalogSpec := do
  let fields ← yaml.fields? ["version", "handler", "entries"]
  return ⟨(← fields.required? "version" Yaml.word32?).toNat,
    ← fields.orDefault? "handler" .standard HandlerSpec.ofYaml?,
    ← fields.orDefault? "entries" [] (Yaml.list? CatalogEntrySpec.ofYaml?)⟩

/-- The written catalog in a text. -/
def ofText? (text : String) : Option CatalogSpec := (Yaml.parse? text).bind ofYaml?

/-- The text of a written catalog. -/
def text (spec : CatalogSpec) : String := spec.toYaml.print

end CatalogSpec

namespace Catalog

/-- The catalog in a text, ready for use. -/
def ofText (text : String) : Except CatalogError Catalog :=
  match CatalogSpec.ofText? text with
  | some spec => compile spec
  | none => .error .malformed

end Catalog

end ForwardTaint
