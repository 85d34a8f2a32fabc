import ForwardTaint.Analysis.Analyzer
import ForwardTaint.Catalog.Text
import ForwardTaint.CommandLine.Help
import ForwardTaint.Json.Parser
import ForwardTaint.Json.Printer
import ForwardTaint.Program.Json
import ForwardTaint.Report.AnalysisJson
import ForwardTaint.Settings.Configuration

/-!
What commands do, for any way of reading files and telling the time.
-/

namespace ForwardTaint

namespace AnalysisError

/-- The error for a configuration that cannot be used. -/
def ofConfiguration (error : ConfigurationError) : AnalysisError :=
  ⟨.invalidInput, error.message, some "configuration"⟩

/-- The error for a catalog that cannot be used. -/
def ofCatalog (error : CatalogError) : AnalysisError := ⟨.catalog, error.message, none⟩

/-- The error for an input that cannot be read. -/
def unreadable (path : String) : AnalysisError :=
  ⟨.invalidInput, "the file cannot be read", some path⟩

/-- The error for an input that is no compilation unit. -/
def malformedUnit : AnalysisError :=
  ⟨.invalidInput, "the text is not a compilation unit", some "compilation unit JSON"⟩

end AnalysisError

/-- The unit in a text; what belongs to it is nested at most 127 deep. -/
def CompilationUnit.ofText? (text : String) : Option CompilationUnit :=
  (Json.ofText? (some 127) text).bind CompilationUnit.ofJson?

/-- How a command ends. -/
inductive CommandOutcome where
  | printed (text : String) (exitCode : UInt8)
  | failed (error : AnalysisError)
  | misused
  deriving DecidableEq

namespace CommandOutcome

/-- The text on standard output. -/
def output : CommandOutcome → String
  | .printed text _ => text
  | .failed _ | .misused => ""

/-- The exit code: 0 for success, 1 for an error, 2 for wrong usage, and for flagged findings when
they are to count as failure. -/
def exitCode : CommandOutcome → UInt8
  | .printed _ code => code
  | .failed _ => 1
  | .misused => 2

/-- The error that is reported. -/
def error? : CommandOutcome → Option AnalysisError
  | .failed error => some error
  | _ => none

end CommandOutcome

/-- What a command needs from outside: the text of the file at a path, if it can be read, and a
clock in milliseconds. -/
structure Surroundings (Action : Type → Type) where
  readFile : String → Action (Option String)
  clock : Action Nat

namespace Command

/-- The directory of a file, none for the root. -/
def directoryOf (path : String) : Option String :=
  let dropSlashes (reversed : List Char) : List Char := reversed.dropWhile (· == '/')
  let name := (dropSlashes path.toList.reverse).reverse
  if name.isEmpty then none
  else match Text.splitAtLast? '/' name with
    | none => some ""
    | some (before, _) =>
        let directory := (dropSlashes before.reverse).reverse
        some (if directory.isEmpty then "/" else String.ofList directory)

section

variable {Action : Type → Type} [Monad Action]

/-- The configuration of a file. -/
def loadConfiguration (surroundings : Surroundings Action) (path : String) :
    Action (Except ConfigurationError Configuration) := do
  match ← surroundings.readFile path with
  | some text => return Configuration.ofText (directoryOf path) text
  | none => return .error (.unreadable path)

/-- The catalog of a file. -/
def loadCatalog (surroundings : Surroundings Action) (path : String) :
    Action (Except CatalogError Catalog) := do
  match ← surroundings.readFile path with
  | some text => return Catalog.ofText text
  | none => return .error (.unreadable path)

/-- The compilation unit of a file. -/
def loadUnit (surroundings : Surroundings Action) (path : String) :
    Action (Except AnalysisError CompilationUnit) := do
  match ← surroundings.readFile path with
  | some text =>
      return match CompilationUnit.ofText? text with
        | some compilationUnit => .ok compilationUnit
        | none => .error .malformedUnit
  | none => return .error (.unreadable path)

/-- A report in a format. -/
def render (format : OutputFormat) (explain : Bool) (report : AnalysisReport) : String :=
  match format with
  | .json => report.toJson.pretty
  | .text => report.text explain

/-- Analyzes the unit of a file.  A catalog on the command line goes before that of the
configuration. -/
def runAnalyze (surroundings : Surroundings Action) (options : AnalyzeOptions) :
    ExceptT AnalysisError Action CommandOutcome := do
  let configuration ← match options.configurationPath with
    | some path => do
        let loaded ← ExceptT.lift (loadConfiguration surroundings path)
        ExceptT.mk (pure (loaded.mapError AnalysisError.ofConfiguration))
    | none => pure .standard
  let settings := { configuration.settings with
    explainSuppressed := options.explain || configuration.settings.explainSuppressed }
  let catalog ← match options.catalogPath.or configuration.catalogPath with
    | some path => do
        let loaded ← ExceptT.lift (loadCatalog surroundings path)
        ExceptT.mk (pure (loaded.mapError AnalysisError.ofCatalog))
    | none => pure .standard
  let compilationUnit ← ExceptT.mk (loadUnit surroundings options.inputPath)
  let analyzer ← ExceptT.mk (pure (Analyzer.ofSettings catalog settings))
  let started ← ExceptT.lift surroundings.clock
  let report := analyzer.analyze compilationUnit
  let finished ← ExceptT.lift surroundings.clock
  let timed := { report with
    statistics := { report.statistics with milliseconds := finished - started } }
  return .printed (render options.format settings.explainSuppressed timed ++ "\n")
    (if options.failOnFindings && report.hasFlagged then 2 else 0)

/-- Carries out a command line. -/
def run (surroundings : Surroundings Action) (arguments : List String) :
    Action CommandOutcome := do
  match ofArguments? arguments with
  | some (.analyze options) =>
      match ← (runAnalyze surroundings options).run with
      | .ok outcome => return outcome
      | .error error => return .failed error
  | some .printCatalog => return .printed Catalog.standardSpec.text 0
  | some .printVersion => return .printed "forwardscan 0.1.0\n" 0
  | some (.printHelp topic) => return .printed topic.text 0
  | none => return .misused

end

end Command

end ForwardTaint
