/-!
The settings of an analysis: presets for common uses and changes of single fields.
-/

namespace ForwardTaint

/-- Complete settings for a common use. -/
inductive Preset where
  | fast
  | balanced
  | thorough
  deriving DecidableEq

namespace Preset

/-- The presets in the order in which they are offered. -/
def all : List Preset := [fast, balanced, thorough]

def name : Preset → String
  | .fast => "fast"
  | .balanced => "balanced"
  | .thorough => "thorough"

/-- The preset with exactly the name. -/
def ofExactName? (name : String) : Option Preset := all.find? fun preset => preset.name == name

end Preset

/-- How an analysis is made; a time budget of zero stands for none. -/
structure Settings where
  maxVisits : UInt64
  timeoutMilliseconds : UInt64
  explainSuppressed : Bool
  caseInsensitiveDispatch : Bool
  parallel : Bool
  maxPathLength : UInt64
  deriving DecidableEq

/-- New values for some of the settings. -/
structure SettingsPatch where
  maxVisits : Option UInt64
  timeoutMilliseconds : Option UInt64
  explainSuppressed : Option Bool
  caseInsensitiveDispatch : Option Bool
  parallel : Option Bool
  maxPathLength : Option UInt64
  deriving DecidableEq

/-- Why settings are refused: a field is outside of its range. -/
structure RangeError where
  field : String
  value : UInt64
  least : UInt64
  greatest : UInt64
  hint : String
  deriving DecidableEq

def RangeError.message (error : RangeError) : String :=
  "Invalid range for field '" ++ error.field ++ "': " ++ toString error.value ++ " not in "
    ++ toString error.least ++ "..=" ++ toString error.greatest ++ ". " ++ error.hint

namespace Settings

/-- The settings of a preset. -/
def ofPreset : Preset → Settings
  | .fast => ⟨10000, 1000, false, false, true, 16⟩
  | .balanced => ⟨100000, 10000, false, false, true, 64⟩
  | .thorough => ⟨1000000, 0, true, false, true, 256⟩

/-- The settings that hold when none are given. -/
def standard : Settings := ofPreset .balanced

/-- Fails unless the value of a field is in its range, the ends included. -/
def checkRange (field : String) (value least greatest : UInt64) (hint : String) :
    Except RangeError Unit :=
  if value < least ∨ greatest < value then .error ⟨field, value, least, greatest, hint⟩
  else .ok ()

/-- Fails with the first field that is out of its range. -/
def validate (settings : Settings) : Except RangeError Unit := do
  checkRange "max_iterations" settings.maxVisits 1 1000000
    "Node visits per procedure must be finite and at least 1"
  checkRange "timeout_ms" settings.timeoutMilliseconds 0 3600000
    "Use 0 for no time budget, otherwise at most one hour"
  checkRange "max_path_len" settings.maxPathLength 2 10000
    "A path holds at least its source and its sink"

/-- The time budget in milliseconds, if there is one. -/
def timeout? (settings : Settings) : Option UInt64 :=
  if settings.timeoutMilliseconds = 0 then none else some settings.timeoutMilliseconds

end Settings

namespace SettingsPatch

/-- The patch that changes nothing. -/
def empty : SettingsPatch := ⟨none, none, none, none, none, none⟩

def isEmpty (patch : SettingsPatch) : Bool := patch == empty

/-- The settings with the new values. -/
def apply (patch : SettingsPatch) (settings : Settings) : Settings where
  maxVisits := patch.maxVisits.getD settings.maxVisits
  timeoutMilliseconds := patch.timeoutMilliseconds.getD settings.timeoutMilliseconds
  explainSuppressed := patch.explainSuppressed.getD settings.explainSuppressed
  caseInsensitiveDispatch := patch.caseInsensitiveDispatch.getD settings.caseInsensitiveDispatch
  parallel := patch.parallel.getD settings.parallel
  maxPathLength := patch.maxPathLength.getD settings.maxPathLength

/-- The new value of a field if it differs from the old one. -/
def changed? {Value : Type} [DecidableEq Value] (old new : Value) : Option Value :=
  if old = new then none else some new

/-- The fields in which settings differ from a base. -/
def difference (base settings : Settings) : SettingsPatch where
  maxVisits := changed? base.maxVisits settings.maxVisits
  timeoutMilliseconds := changed? base.timeoutMilliseconds settings.timeoutMilliseconds
  explainSuppressed := changed? base.explainSuppressed settings.explainSuppressed
  caseInsensitiveDispatch :=
    changed? base.caseInsensitiveDispatch settings.caseInsensitiveDispatch
  parallel := changed? base.parallel settings.parallel
  maxPathLength := changed? base.maxPathLength settings.maxPathLength

end SettingsPatch

end ForwardTaint
