/-!
The command line: what is asked for, and how it is written.  An option stands alone or with its
value behind it or attached; letters can be joined behind one dash.
-/

namespace ForwardTaint

/-- How a report is written. -/
inductive OutputFormat where
  | json
  | text
  deriving DecidableEq

/-- The format with a written name. -/
def OutputFormat.ofName? (name : String) : Option OutputFormat :=
  if name == "json" then some .json else if name == "text" then some .text else none

/-- The options of an analysis. -/
structure AnalyzeOptions where
  inputPath : String
  catalogPath : Option String
  configurationPath : Option String
  format : OutputFormat
  explain : Bool
  failOnFindings : Bool
  deriving DecidableEq

/-- What help is about. -/
inductive HelpTopic where
  | program
  | analyze
  | catalog
  deriving DecidableEq

/-- What is asked for. -/
inductive Command where
  | analyze (options : AnalyzeOptions)
  | printCatalog
  | printVersion
  | printHelp (topic : HelpTopic)
  deriving DecidableEq

namespace Command

/-- The options of an analysis read so far. -/
structure Draft where
  inputPath : Option String
  catalogPath : Option String
  configurationPath : Option String
  format : Option OutputFormat
  explain : Bool
  failOnFindings : Bool

namespace Draft

/-- No options. -/
def empty : Draft := ⟨none, none, none, none, false, false⟩

/-- The complete options; only the input is required. -/
def complete? (draft : Draft) : Option AnalyzeOptions :=
  draft.inputPath.map fun inputPath =>
    ⟨inputPath, draft.catalogPath, draft.configurationPath, draft.format.getD .json, draft.explain,
      draft.failOnFindings⟩

/-- The draft with the value of an option; no option is given twice, and none is empty. -/
def set? (draft : Draft) (name value : String) : Option Draft :=
  if value.isEmpty then none
  else if name == "input" && draft.inputPath.isNone then
    some { draft with inputPath := some value }
  else if name == "catalog" && draft.catalogPath.isNone then
    some { draft with catalogPath := some value }
  else if name == "config" && draft.configurationPath.isNone then
    some { draft with configurationPath := some value }
  else if name == "format" && draft.format.isNone then
    (OutputFormat.ofName? value).map fun format => { draft with format := some format }
  else none

/-- The draft with an option that has no value. -/
def raise? (draft : Draft) (name : String) : Option Draft :=
  if name == "explain" && !draft.explain then some { draft with explain := true }
  else if name == "fail-on-findings" && !draft.failOnFindings then
    some { draft with failOnFindings := true }
  else none

end Draft

/-- One argument. -/
inductive Argument where
  | long (name : String) (attached : Option String)
  | letters (letters : List Char)
  | separator
  | plain (text : String)

namespace Argument

/-- What an argument is by its dashes. -/
def ofString (text : String) : Argument :=
  match text.toList with
  | ['-', '-'] => .separator
  | '-' :: '-' :: rest =>
      let name := String.ofList (rest.takeWhile (· != '='))
      match rest.dropWhile (· != '=') with
      | _ :: value => .long name (some (String.ofList value))
      | [] => .long name none
  | '-' :: letter :: further => .letters (letter :: further)
  | _ => .plain text

/-- The text of an argument that can be the value of the option before it. -/
def value? : Argument → Option String
  | .plain text => some text
  | _ => none

end Argument

/-- What joined letters ask for: more words on the way, the help, or the input, whose path may
follow at once. -/
inductive Letters where
  | none
  | help
  | input (attached : Option String)

/-- Reads joined letters. -/
def readLetters? : List Char → Option Letters
  | [] => some .none
  | 'v' :: rest => readLetters? rest
  | 'h' :: _ => some .help
  | ['i'] => some (.input none)
  | 'i' :: '=' :: path => some (.input (some (String.ofList path)))
  | 'i' :: path => some (.input (some (String.ofList path)))
  | _ => none

/-- Reads the arguments of an analysis.  An option that is still waiting for its value takes the
next argument. -/
def readAnalyze? (draft : Draft) : (waiting : Option String) → List String → Option Command
  | none, [] => draft.complete?.map .analyze
  | some _, [] => none
  | some name, text :: rest => do
      let value ← (Argument.ofString text).value?
      readAnalyze? (← draft.set? name value) none rest
  | none, text :: rest =>
      match Argument.ofString text with
      | .long "verbose" none => readAnalyze? draft none rest
      | .long "help" none => some (.printHelp .analyze)
      | .long name (some value) => do readAnalyze? (← draft.set? name value) none rest
      | .long name none =>
          match draft.raise? name with
          | some draft => readAnalyze? draft none rest
          | none => readAnalyze? draft (some name) rest
      | .letters letters =>
          match readLetters? letters with
          | some .none => readAnalyze? draft none rest
          | some .help => some (.printHelp .analyze)
          | some (.input none) => readAnalyze? draft (some "input") rest
          | some (.input (some path)) => do readAnalyze? (← draft.set? "input" path) none rest
          | none => none
      | .separator => if rest.isEmpty then draft.complete?.map .analyze else none
      | .plain _ => none

/-- Reads the arguments of the command that prints the catalog, which has no options of its own. -/
def readCatalog? : List String → Option Command
  | [] => some .printCatalog
  | text :: rest =>
      match Argument.ofString text with
      | .long "verbose" none => readCatalog? rest
      | .long "help" none => some (.printHelp .catalog)
      | .letters letters =>
          match readLetters? letters with
          | some .none => readCatalog? rest
          | some .help => some (.printHelp .catalog)
          | _ => none
      | .separator => if rest.isEmpty then some .printCatalog else none
      | _ => none

/-- Reads the command that help is about. -/
def readHelp? : List String → Option Command
  | [] => some (.printHelp .program)
  | ["analyze"] => some (.printHelp .analyze)
  | ["catalog"] => some (.printHelp .catalog)
  | _ => none

/-- Reads letters in front of a command; answers what they ask for at once, if anything. -/
def readLeadingLetters? : List Char → Option (Option Command)
  | [] => some none
  | 'v' :: rest => readLeadingLetters? rest
  | 'h' :: _ => some (some (.printHelp .program))
  | 'V' :: _ => some (some .printVersion)
  | _ => none

/-- Reads a whole command line. -/
def ofArguments? : List String → Option Command
  | [] => none
  | text :: rest =>
      match Argument.ofString text with
      | .plain "analyze" => readAnalyze? .empty none rest
      | .plain "catalog" => readCatalog? rest
      | .plain "help" => readHelp? rest
      | .long "verbose" none => ofArguments? rest
      | .long "help" none => some (.printHelp .program)
      | .long "version" none => some .printVersion
      | .letters letters =>
          match readLeadingLetters? letters with
          | some none => ofArguments? rest
          | some command => command
          | none => none
      | _ => none

end Command

end ForwardTaint
