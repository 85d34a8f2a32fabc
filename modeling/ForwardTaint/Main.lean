import ForwardTaint.CommandLine.Run

/-!
The program: files are read from disk, and errors go to standard error.
-/

open ForwardTaint

/-- The text of a file that can be read. -/
def readTextFile (path : String) : IO (Option String) := do
  try
    return some (← IO.FS.readFile path)
  catch _ => return none

def main (arguments : List String) : IO UInt32 := do
  let outcome ← Command.run ⟨readTextFile, IO.monoMsNow⟩ arguments
  (← IO.getStdout).putStr outcome.output
  match outcome with
  | .failed error => IO.eprintln ("Error: " ++ error.text)
  | .misused => IO.eprint (HelpTopic.text .program)
  | .printed _ _ => pure ()
  return outcome.exitCode.toUInt32
