import ForwardTaint.Json.Record
import ForwardTaint.Taint.Value

/-!
The JSON form of taint values.
-/

namespace ForwardTaint

namespace TaintState

/-- The written names of the states. -/
def choices : List (String × TaintState) :=
  [("CLEAN", .clean), ("UNKNOWN", .unknown), ("TAINTED", .tainted)]

def toJson : TaintState → Json
  | .clean => .string "CLEAN"
  | .unknown => .string "UNKNOWN"
  | .tainted => .string "TAINTED"

end TaintState

namespace DecodeLevel

/-- The written names of the levels. -/
def choices : List (String × DecodeLevel) :=
  [("raw", .raw), ("once", .once), ("canonical", .canonical)]

def toJson : DecodeLevel → Json
  | .raw => .string "raw"
  | .once => .string "once"
  | .canonical => .string "canonical"

end DecodeLevel

namespace Processing

def toJson (processing : Processing) : Json :=
  .object [("decode", processing.decode.toJson),
    ("normalized_before_decode", .boolean processing.normalizedBeforeDecode),
    ("encoding_seen", .boolean processing.encodingSeen),
    ("normalized", .boolean processing.normalized),
    ("case_folded", .boolean processing.caseFolded)]

def ofJson? (json : Json) : Option Processing := do
  let fields ← json.fields?
    ["decode", "normalized_before_decode", "encoding_seen", "normalized", "case_folded"]
  return ⟨← fields.required? "decode" (Json.choice? DecodeLevel.choices),
    ← fields.required? "normalized_before_decode" Json.boolean?,
    ← fields.required? "encoding_seen" Json.boolean?,
    ← fields.required? "normalized" Json.boolean?, ← fields.required? "case_folded" Json.boolean?⟩

end Processing

namespace Check

def toJson : Check → Json
  | .exactMatch value => .object [("check", .string "exact_match"), ("value", .string value)]
  | .allowPrefix start => .object [("check", .string "allow_prefix"), ("prefix", .string start)]
  | .denyPrefix start => .object [("check", .string "deny_prefix"), ("prefix", .string start)]
  | .noTraversal => .object [("check", .string "no_traversal")]
  | .noEncoding => .object [("check", .string "no_encoding")]

def ofJson? (json : Json) : Option Check := do
  let (kind, record) ← json.tagged? "check"
  match kind with
  | "exact_match" => (record.single? "value" Json.string?).map .exactMatch
  | "allow_prefix" => (record.single? "prefix" Json.string?).map .allowPrefix
  | "deny_prefix" => (record.single? "prefix" Json.string?).map .denyPrefix
  | "no_traversal" => if record.isBare then some .noTraversal else none
  | "no_encoding" => if record.isBare then some .noEncoding else none
  | _ => none

end Check

namespace CheckSet

def toJson (set : CheckSet) : Json := .array (set.checks.map Check.toJson)

def ofJson? (json : Json) : Option CheckSet := (json.list? Check.ofJson?).map ofList

end CheckSet

namespace TaintValue

def toJson (value : TaintValue) : Json :=
  .object [("state", value.state.toJson), ("ops", value.processing.toJson),
    ("checks", value.checks.toJson)]

def ofJson? (json : Json) : Option TaintValue := do
  let fields ← json.fields? ["state", "ops", "checks"]
  return ⟨← fields.required? "state" (Json.choice? TaintState.choices),
    ← fields.required? "ops" Processing.ofJson?, ← fields.required? "checks" CheckSet.ofJson?⟩

end TaintValue

end ForwardTaint
