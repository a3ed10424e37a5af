import WidgetFlow.Command.Report

/-!
# The program

Reads the files that the arguments name, and prints the report.
-/

open WidgetFlow Command

/-- The content of a file, if it can be read. -/
def readFile? (file : String) : IO (Option String) :=
  try some <$> IO.FS.readFile file catch _ => return none

/-- Prints what stands instead of a run, to where it belongs. -/
def stopWith (stop : Stop) : IO UInt32 := do
  if stop.exitCode = 0 then IO.println stop.message else IO.eprintln stop.message
  return stop.exitCode.toUInt32

/-- The program: 0 for success, 1 for a failure, 2 for arguments that are refused. -/
def main (args : List String) : IO UInt32 := do
  match Command.Invocation.parse args with
  | .error stop => stopWith stop
  | .ok invocation =>
    let contents ← invocation.files.mapM fun file => return (file, ← readFile? file)
    match invocation.run fun file => (contents.lookup file).join with
    | .ok report =>
      for line in report.lines do
        IO.println line
      return 0
    | .error failure =>
      IO.eprintln failure.message
      return 1
