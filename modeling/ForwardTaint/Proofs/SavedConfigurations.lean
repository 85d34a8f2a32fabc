import ForwardTaint.Proofs.PrintedRecords
import ForwardTaint.Settings.Configuration

/-!
Saved configurations load back.  A saved file only holds what differs from its preset, and the text of the
file is read as that file, so that loading arrives at the same settings and checks them.
-/

namespace ForwardTaint

open Yaml

namespace SettingsPatch

theorem getD_changed? {Value : Type} [DecidableEq Value] (old new : Value) :
    (changed? old new).getD old = new := by
  unfold changed?
  split
  case isTrue same => exact same
  case isFalse => rfl

/-- The differences to a base lead from that base to the settings. -/
theorem apply_difference (base settings : Settings) : (difference base settings).apply base = settings := by
  simp only [apply, difference, getD_changed?]

/-- The fields of a patch. -/
def yamlFields (patch : SettingsPatch) : List (String × Option Yaml) :=
  [("max_iterations", patch.maxVisits.map fun value => .ofNat value.toNat),
    ("timeout_ms", patch.timeoutMilliseconds.map fun value => .ofNat value.toNat),
    ("explain_suppressed", patch.explainSuppressed.map .ofBool),
    ("case_insensitive_dispatch", patch.caseInsensitiveDispatch.map .ofBool),
    ("parallel", patch.parallel.map .ofBool),
    ("max_path_len", patch.maxPathLength.map fun value => .ofNat value.toNat)]

theorem toYaml_eq (patch : SettingsPatch) : patch.toYaml = .mapping (record patch.yamlFields) := by
  simp [toYaml, record, present, yamlFields, Option.toList_map, Function.comp_def]

theorem ofYaml?_toYaml (patch : SettingsPatch) : ofYaml? patch.toYaml = some patch := by
  have nodup : (patch.yamlFields.map Prod.fst).Nodup := by simp [yamlFields]
  have read := fields?_record nodup
  have names : patch.yamlFields.map Prod.fst = ["max_iterations", "timeout_ms", "explain_suppressed",
    "case_insensitive_dispatch", "parallel", "max_path_len"] := rfl
  have number (name : String) (value : Option UInt64)
      (member : (name, value.map fun value => .ofNat value.toNat) ∈ patch.yamlFields) :=
    optional?_present nodup member fun held _ => encodes_word64 held
  have flag (name : String) (value : Option Bool)
      (member : (name, value.map .ofBool) ∈ patch.yamlFields) :=
    optional?_present nodup member fun held _ => encodes_boolean held
  rw [names] at read
  rw [toYaml_eq, ofYaml?, read]
  simp [number "max_iterations" patch.maxVisits (by simp [yamlFields]),
    number "timeout_ms" patch.timeoutMilliseconds (by simp [yamlFields]),
    flag "explain_suppressed" patch.explainSuppressed (by simp [yamlFields]),
    flag "case_insensitive_dispatch" patch.caseInsensitiveDispatch (by simp [yamlFields]),
    flag "parallel" patch.parallel (by simp [yamlFields]),
    number "max_path_len" patch.maxPathLength (by simp [yamlFields])]

/-- A patch with a new value is printed without loss. -/
theorem exists_hasTokens {patch : SettingsPatch} (notEmpty : patch.isEmpty = false) :
    ∃ tokens, HasTokens patch.toYaml tokens := by
  rw [toYaml_eq]
  refine exists_hasTokens_record ?_ ?_ fun isEmpty => ?_
  · have areKeys : (["max_iterations", "timeout_ms", "explain_suppressed", "case_insensitive_dispatch",
        "parallel", "max_path_len"].all isKey) = true := by decide
    simpa [yamlFields] using areKeys
  · have number (value : Option UInt64) :=
      Encodes.printed_of_mem fun held (_ : held ∈ value) => encodes_word64 held
    have flag (value : Option Bool) :=
      Encodes.printed_of_mem fun held (_ : held ∈ value) => encodes_boolean held
    simp only [yamlFields, List.forall_mem_cons]
    exact ⟨number _, number _, flag _, flag _, flag _, number _, by simp⟩
  · have noValues := eq_none_of_present_eq_nil isEmpty
    simp only [yamlFields, List.forall_mem_cons, Option.map_eq_none_iff] at noValues
    obtain ⟨visits, timeout, explain, dispatch, parallel, length, -⟩ := noValues
    obtain rfl : patch = empty := by
      cases patch
      simp_all [empty]
    exact absurd notEmpty (by decide)

end SettingsPatch

namespace ConfigurationFile

/-- The fields of a file. -/
def yamlFields (file : ConfigurationFile) : List (String × Option Yaml) :=
  [("version", some (.ofNat file.version.toNat)), ("preset", file.preset.map .ofString),
    ("catalog", file.catalogPath.map .ofString), ("overrides", file.overrides.map SettingsPatch.toYaml)]

theorem toYaml_eq (file : ConfigurationFile) : file.toYaml = .mapping (record file.yamlFields) := by
  simp [toYaml, record, present, yamlFields, Option.toList_map, Function.comp_def]

theorem encodes_patch {patch : SettingsPatch} (notEmpty : patch.isEmpty = false) :
    Encodes SettingsPatch.ofYaml? patch patch.toYaml where
  printed := patch.exists_hasTokens notEmpty
  isGiven := rfl
  decoded := patch.ofYaml?_toYaml

theorem ofYaml?_toYaml {file : ConfigurationFile}
    (changes : ∀ patch ∈ file.overrides, patch.isEmpty = false) :
    ofYaml? file.toYaml = some file := by
  have nodup : (file.yamlFields.map Prod.fst).Nodup := by simp [yamlFields]
  have read := fields?_record nodup
  have names : file.yamlFields.map Prod.fst = ["version", "preset", "catalog", "overrides"] := rfl
  rw [names] at read
  have isVersion : ("version", some (.ofNat file.version.toNat)) ∈ file.yamlFields := by simp [yamlFields]
  have isPreset : ("preset", file.preset.map .ofString) ∈ file.yamlFields := by simp [yamlFields]
  have isCatalog : ("catalog", file.catalogPath.map .ofString) ∈ file.yamlFields := by simp [yamlFields]
  have isPatch : ("overrides", file.overrides.map SettingsPatch.toYaml) ∈ file.yamlFields := by
    simp [yamlFields]
  have version := required?_present nodup isVersion (encodes_word32 file.version)
  have preset := optional?_present nodup isPreset fun held _ => encodes_string held
  have catalogPath := optional?_present nodup isCatalog fun held _ => encodes_string held
  have overrides := optional?_present nodup isPatch fun held isHeld => encodes_patch (changes held isHeld)
  rw [toYaml_eq, ofYaml?, read]
  simp [version, preset, catalogPath, overrides]

/-- A file that has a patch only if that changes something is read back from its text. -/
theorem ofYaml?_parse?_print {file : ConfigurationFile}
    (changes : ∀ patch ∈ file.overrides, patch.isEmpty = false) :
    (Yaml.parse? file.toYaml.print).bind ofYaml? = some file := by
  have areKeys : ["version", "preset", "catalog", "overrides"].all isKey = true := by decide
  have printed : ∀ field ∈ file.yamlFields, ∀ value ∈ field.2, ∃ tokens, HasTokens value tokens := by
    have word (value : Option String) :=
      Encodes.printed_of_mem fun held (_ : held ∈ value) => encodes_string held
    simp only [yamlFields, List.forall_mem_cons]
    refine ⟨?_, word _, word _, ?_, by simp⟩
    · rintro _ ⟨⟩
      exact (encodes_word32 file.version).printed
    · exact Encodes.printed_of_mem fun patch isPatch => encodes_patch (changes patch isPatch)
  obtain ⟨tokens, hasTokens⟩ := exists_hasTokens_record (by simpa [yamlFields] using areKeys) printed
    (by simp [yamlFields, present_cons])
  rw [toYaml_eq, parse?_print hasTokens, Option.bind_some, ← toYaml_eq, ofYaml?_toYaml changes]

end ConfigurationFile

namespace Preset

theorem ofName?_name (preset : Preset) : ofName? preset.name = some preset := by
  cases preset <;> decide

end Preset

namespace Configuration

theorem toFile_changes (configuration : Configuration) :
    ∀ patch ∈ configuration.toFile.overrides, patch.isEmpty = false := by
  intro patch isPatch
  simp only [toFile, Option.mem_def, Option.ite_none_left_eq_some, Option.some.injEq] at isPatch
  obtain ⟨notEmpty, rfl⟩ := isPatch
  simpa using notEmpty

/-- Loading what was saved checks the settings again. -/
theorem ofFile_toFile (configuration : Configuration) :
    ofFile none configuration.toFile =
      (configuration.settings.validate.mapError .range).map fun _ => configuration := by
  have applied : (configuration.toFile.overrides.getD .empty).apply (.ofPreset configuration.preset) =
      configuration.settings := by
    have applied := SettingsPatch.apply_difference (.ofPreset configuration.preset) configuration.settings
    simp only [toFile]
    split
    case isTrue isEmpty =>
      rw [SettingsPatch.isEmpty, beq_iff_eq] at isEmpty
      rwa [isEmpty] at applied
    case isFalse => exact applied
  have preset : presetOf configuration.toFile.preset = .ok configuration.preset := by
    simp [presetOf, toFile, Preset.ofName?_name]
  have supported : supportedVersions.contains configuration.toFile.version = true := rfl
  have catalogPath : configuration.toFile.catalogPath = configuration.catalogPath := rfl
  rw [ofFile, supported, preset]
  simp only [catalogPath, bind, Except.bind, Bool.not_true, Bool.false_eq_true, if_false, applied]
  cases configuration.settings.validate with
  | ok => obtain ⟨preset, settings, _ | path⟩ := configuration <;> rfl
  | error => rfl

/-- Configurations with settings in their ranges load back as they were saved; others fail to load for the
same reason for which their settings are refused.  The differences that are saved lead from any base to the
settings. -/
theorem ofText_text (configuration : Configuration) (base target : Settings) :
    ofText none configuration.text =
        (match configuration.settings.validate with
        | .ok () => .ok configuration
        | .error error => .error (.range error)) ∧
      (SettingsPatch.difference base target).apply base = target := by
  refine ⟨?_, SettingsPatch.apply_difference base target⟩
  rw [ofText, text, ConfigurationFile.ofYaml?_parse?_print configuration.toFile_changes]
  simp only [ofFile_toFile]
  cases configuration.settings.validate <;> rfl

/-! A catalog with the name of a word that means nothing stands in marks. -/

example :
    text ⟨.fast, { Settings.ofPreset .fast with parallel := false }, some "~"⟩ =
      "version: 1\npreset: fast\ncatalog: '~'\noverrides:\n  parallel: false\n" := by
  decide

end Configuration

end ForwardTaint
