import ForwardTaint.Json.Record
import ForwardTaint.Settings.Settings

/-!
The JSON form of settings and patches.
-/

namespace ForwardTaint

namespace Preset

/-- The written names of the presets. -/
def choices : List (String × Preset) := all.map fun preset => (preset.name, preset)

end Preset

namespace Settings

/-- The written names of the settings. -/
def fieldNames : List String :=
  ["max_iterations", "timeout_ms", "explain_suppressed", "case_insensitive_dispatch", "parallel",
    "max_path_len"]

def toJson (settings : Settings) : Json :=
  .object [("max_iterations", .ofNat settings.maxVisits.toNat),
    ("timeout_ms", .ofNat settings.timeoutMilliseconds.toNat),
    ("explain_suppressed", .boolean settings.explainSuppressed),
    ("case_insensitive_dispatch", .boolean settings.caseInsensitiveDispatch),
    ("parallel", .boolean settings.parallel),
    ("max_path_len", .ofNat settings.maxPathLength.toNat)]

/-- Reads settings; a field that is left out has its standard value. -/
def ofJson? (json : Json) : Option Settings := do
  let fields ← json.fields? fieldNames
  return ⟨← fields.orDefault? "max_iterations" standard.maxVisits Json.word64?,
    ← fields.orDefault? "timeout_ms" standard.timeoutMilliseconds Json.word64?,
    ← fields.orDefault? "explain_suppressed" standard.explainSuppressed Json.boolean?,
    ← fields.orDefault? "case_insensitive_dispatch" standard.caseInsensitiveDispatch Json.boolean?,
    ← fields.orDefault? "parallel" standard.parallel Json.boolean?,
    ← fields.orDefault? "max_path_len" standard.maxPathLength Json.word64?⟩

end Settings

namespace SettingsPatch

/-- The new values; fields without one are left out. -/
def toJson (patch : SettingsPatch) : Json :=
  let number (name : String) (value : Option UInt64) : List (String × Json) :=
    (value.map fun value => (name, Json.ofNat value.toNat)).toList
  let flag (name : String) (value : Option Bool) : List (String × Json) :=
    (value.map fun value => (name, Json.boolean value)).toList
  .object (number "max_iterations" patch.maxVisits ++ number "timeout_ms" patch.timeoutMilliseconds
    ++ flag "explain_suppressed" patch.explainSuppressed
    ++ flag "case_insensitive_dispatch" patch.caseInsensitiveDispatch
    ++ flag "parallel" patch.parallel ++ number "max_path_len" patch.maxPathLength)

def ofJson? (json : Json) : Option SettingsPatch := do
  let fields ← json.strictFields? Settings.fieldNames
  return ⟨← fields.placed? "max_iterations" Json.word64?,
    ← fields.placed? "timeout_ms" Json.word64?,
    ← fields.placed? "explain_suppressed" Json.boolean?,
    ← fields.placed? "case_insensitive_dispatch" Json.boolean?,
    ← fields.placed? "parallel" Json.boolean?, ← fields.placed? "max_path_len" Json.word64?⟩

end SettingsPatch

end ForwardTaint
