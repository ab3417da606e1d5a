import Lightpath.CommandLine.Program

/-!
The command line. The files that the arguments name are read first, then the program runs on their
texts. No server can be reached from here, so a command that needs the controller ends with a
complaint.
-/

namespace Lightpath

/-- The text of a file, if it can be read. -/
def readText? (path : String)
    : IO (Option String) := do
  try
    let text ← IO.FS.readFile path
    pure (some text)
  catch _ => pure none

/-- The texts of files with their paths. -/
def readTexts (paths : List String)
    : IO (List (String × String)) := do
  let texts ← paths.mapM fun path => do
    let text ← readText? path
    pure (text.map fun t => (path, t))
  pure (texts.filterMap id)

end Lightpath

open Lightpath

/-- The program on the arguments of the command line. -/
def main (arguments : List String)
    : IO UInt32 := do
  let files ← readTexts (Arguments.usage arguments).paths
  let version ← IO.getEnv Program.versionVariable
  let surroundings : Surroundings :=
    { file := fun path => files.lookup path, version := version }
  let (ending, _) := Program.run surroundings Exchange.unreachable arguments ()
  IO.print ending.output
  if ending.complaint ≠ "" then IO.eprintln ending.complaint
  pure ending.code.toUInt32
