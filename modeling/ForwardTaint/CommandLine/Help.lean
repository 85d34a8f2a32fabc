import ForwardTaint.CommandLine.Command

/-!
The help texts of the program and of its commands.
-/

namespace ForwardTaint

/-- A line of help: what is written on the left, and what it means. -/
structure HelpEntry where
  written : String
  meaning : String

namespace HelpEntry

/-- The option that every command has for more words on the way. -/
def verbose : HelpEntry :=
  ⟨"-v, --verbose...", "Verbosity level (-v, -vv, -vvv); RUST_LOG takes precedence"⟩

/-- The option that prints help. -/
def help : HelpEntry := ⟨"-h, --help", "Print help"⟩

/-- Lines of help whose meanings stand in one column, two blanks behind the widest left part. -/
def lines (entries : List HelpEntry) : String :=
  let width := entries.foldl (fun width entry => max width entry.written.length) 0
  String.join (entries.map fun entry =>
    "  " ++ entry.written.pushn ' ' (width + 2 - entry.written.length) ++ entry.meaning ++ "\n")

end HelpEntry

namespace HelpTopic

/-- What the topic is for. -/
def purpose : HelpTopic → String
  | .program => "Detect unvalidated URL forwards (CWE-552) in procedure IR"
  | .analyze => "Analyze a compilation unit (JSON procedure IR)"
  | .catalog => "Print the effective default signature catalog as YAML"

/-- How the arguments of the topic are written. -/
def usage : HelpTopic → String
  | .program => "forwardscan [OPTIONS] <COMMAND>"
  | .analyze => "forwardscan analyze [OPTIONS] --input <INPUT>"
  | .catalog => "forwardscan catalog [OPTIONS]"

/-- The commands of the topic. -/
def commands : HelpTopic → List HelpEntry
  | .program =>
      [⟨"analyze", purpose .analyze⟩, ⟨"catalog", purpose .catalog⟩,
        ⟨"help", "Print this message or the help of the given subcommand(s)"⟩]
  | .analyze | .catalog => []

/-- The options of the topic. -/
def options : HelpTopic → List HelpEntry
  | .program => [.verbose, .help, ⟨"-V, --version", "Print version"⟩]
  | .analyze =>
      [⟨"-i, --input <INPUT>", "Compilation unit JSON produced by a front end"⟩, .verbose,
        ⟨"    --catalog <CATALOG>", "Signature catalog YAML replacing the built-in one"⟩,
        ⟨"    --config <CONFIG>", "Configuration YAML (schema v1)"⟩,
        ⟨"    --format <FORMAT>", "Output format [default: json] [possible values: json, text]"⟩,
        ⟨"    --explain", "Report suppressed flows with their barrier rationale"⟩,
        ⟨"    --fail-on-findings", "Exit with status 2 when any finding is flagged"⟩, .help]
  | .catalog => [.verbose, .help]

/-- The help text of the topic. -/
def text (topic : HelpTopic) : String :=
  let commandLines := if topic.commands.isEmpty then ""
    else "Commands:\n" ++ HelpEntry.lines topic.commands ++ "\n"
  topic.purpose ++ "\n\nUsage: " ++ topic.usage ++ "\n\n" ++ commandLines ++ "Options:\n"
    ++ HelpEntry.lines topic.options

end HelpTopic

end ForwardTaint
