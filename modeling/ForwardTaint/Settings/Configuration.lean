import ForwardTaint.Settings.Settings
import ForwardTaint.Text.Lowercase
import ForwardTaint.Yaml.Parser
import ForwardTaint.Yaml.Printer
import ForwardTaint.Yaml.Record

/-!
Configuration files: a preset, changes of its settings, and the place of a catalog.
-/

namespace ForwardTaint

namespace Preset

/-- The preset with the name in letters of either case. -/
def ofName? (name : String) : Option Preset := ofExactName? (Text.lowercase name)

end Preset

/-- What a configuration file says. -/
structure ConfigurationFile where
  version : UInt32
  preset : Option String
  catalogPath : Option String
  overrides : Option SettingsPatch
  deriving DecidableEq

/-- Why a configuration cannot be used. -/
inductive ConfigurationError where
  | malformed
  | unreadable (path : String)
  | unsupportedVersion (found : UInt32)
  | unknownPreset (name : String)
  | range (error : RangeError)
  deriving DecidableEq

/-- The settings that a file gives, and the catalog in place of the standard one. -/
structure Configuration where
  preset : Preset
  settings : Settings
  catalogPath : Option String
  deriving DecidableEq

namespace Configuration

/-- The versions of configuration files that can be read. -/
def supportedVersions : List UInt32 := [1]

/-- The configuration that holds without a file. -/
def standard : Configuration := ⟨.balanced, .standard, none⟩

end Configuration

namespace ConfigurationError

def message : ConfigurationError → String
  | .malformed => "YAML parsing error"
  | .unreadable path => "IO error reading " ++ path
  | .unsupportedVersion found =>
      "Unsupported configuration version " ++ toString found ++ ". Supported versions: "
        ++ String.intercalate ", " (Configuration.supportedVersions.map toString)
  | .unknownPreset name =>
      "Unknown preset '" ++ name ++ "'. Valid presets: "
        ++ String.intercalate ", " (Preset.all.map Preset.name)
  | .range error => error.message

end ConfigurationError

namespace SettingsPatch

/-- The patch in a configuration file; fields without a new value are left out. -/
def toYaml (patch : SettingsPatch) : Yaml :=
  let number (name : String) (value : Option UInt64) : List (Yaml × Yaml) :=
    (value.map fun value => (Yaml.ofString name, Yaml.ofNat value.toNat)).toList
  let flag (name : String) (value : Option Bool) : List (Yaml × Yaml) :=
    (value.map fun value => (Yaml.ofString name, Yaml.ofBool value)).toList
  .mapping (number "max_iterations" patch.maxVisits ++ number "timeout_ms" patch.timeoutMilliseconds
    ++ flag "explain_suppressed" patch.explainSuppressed
    ++ flag "case_insensitive_dispatch" patch.caseInsensitiveDispatch
    ++ flag "parallel" patch.parallel ++ number "max_path_len" patch.maxPathLength)

def ofYaml? (yaml : Yaml) : Option SettingsPatch := do
  let fields ← yaml.fields? ["max_iterations", "timeout_ms", "explain_suppressed",
    "case_insensitive_dispatch", "parallel", "max_path_len"]
  return ⟨← fields.optional? "max_iterations" Yaml.word64?,
    ← fields.optional? "timeout_ms" Yaml.word64?,
    ← fields.optional? "explain_suppressed" Yaml.boolean?,
    ← fields.optional? "case_insensitive_dispatch" Yaml.boolean?,
    ← fields.optional? "parallel" Yaml.boolean?, ← fields.optional? "max_path_len" Yaml.word64?⟩

end SettingsPatch

namespace ConfigurationFile

/-- The file as a tree; parts that say nothing are left out. -/
def toYaml (file : ConfigurationFile) : Yaml :=
  let part (name : String) (value : Option Yaml) : List (Yaml × Yaml) :=
    (value.map fun value => (Yaml.ofString name, value)).toList
  .mapping (part "version" (some (.ofNat file.version.toNat))
    ++ part "preset" (file.preset.map Yaml.ofString)
    ++ part "catalog" (file.catalogPath.map Yaml.ofString)
    ++ part "overrides" (file.overrides.map SettingsPatch.toYaml))

def ofYaml? (yaml : Yaml) : Option ConfigurationFile := do
  let fields ← yaml.fields? ["version", "preset", "catalog", "overrides"]
  return ⟨← fields.required? "version" Yaml.word32?, ← fields.optional? "preset" Yaml.string?,
    ← fields.optional? "catalog" Yaml.string?,
    ← fields.optional? "overrides" SettingsPatch.ofYaml?⟩

end ConfigurationFile

namespace Configuration

/-- A path as seen from a directory. -/
def resolve (directory path : String) : String :=
  if path.toList.head? = some '/' then path
  else if directory.isEmpty || directory.toList.getLast? = some '/' then directory ++ path
  else directory ++ "/" ++ path

/-- The preset that a file names. -/
def presetOf : Option String → Except ConfigurationError Preset
  | none => .ok .balanced
  | some name =>
      match Preset.ofName? name with
      | some preset => .ok preset
      | none => .error (.unknownPreset name)

/-- The configuration of a file, in which a catalog is given as seen from the directory. -/
def ofFile (directory : Option String) (file : ConfigurationFile) :
    Except ConfigurationError Configuration := do
  if !supportedVersions.contains file.version then throw (.unsupportedVersion file.version)
  let preset ← presetOf file.preset
  let settings := (file.overrides.getD .empty).apply (.ofPreset preset)
  settings.validate.mapError .range
  return ⟨preset, settings, file.catalogPath.map fun path =>
    (directory.map fun directory => resolve directory path).getD path⟩

/-- The configuration in the text of a file. -/
def ofText (directory : Option String) (text : String) :
    Except ConfigurationError Configuration :=
  match (Yaml.parse? text).bind ConfigurationFile.ofYaml? with
  | some file => ofFile directory file
  | none => .error .malformed

/-- The file of a configuration: its preset and what differs from it. -/
def toFile (configuration : Configuration) : ConfigurationFile :=
  let patch := SettingsPatch.difference (.ofPreset configuration.preset) configuration.settings
  ⟨1, some configuration.preset.name, configuration.catalogPath,
    if patch.isEmpty then none else some patch⟩

/-- The text of the file of a configuration. -/
def text (configuration : Configuration) : String := configuration.toFile.toYaml.print

end Configuration

end ForwardTaint
