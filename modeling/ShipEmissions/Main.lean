import ShipEmissions.CommandLine.Run

/-!
# The program

Emissions of ships on the command line. A result goes to standard output as a document, what goes
wrong to standard error. The exit code is 1 if a command stops and 2 if the arguments are not used
as they should be.
-/

open ShipEmissions ShipEmissions.CommandLine

/-- The text of a file, if it has one. -/
def readText (path : String) : IO (Option String) := do
  try
    return some (← IO.FS.readFile path)
  catch _ =>
    return none

/-- How the program is used. -/
def usage : String :=
  "usage: [--sanitizer FILE] COMMAND\n" ++
  "  guess --config FILE [--attrs JSON]\n" ++
  "  track --config FILE --positions FILE [--mode MODE] [--vessel JSON]\n" ++
  "  mooring --config FILE --hours HOURS [--mode MODE] [--vessel JSON]"

/-- Runs the program with its arguments. -/
def main (arguments : List String) : IO UInt32 := do
  match Invocation.ofArguments? arguments with
  | none =>
    IO.eprintln usage
    return 2
  | some invocation =>
    match ← invocation.run? readText with
    | .error failure =>
      IO.eprintln ("Error: " ++ failure.text)
      return 1
    | .ok doc =>
      IO.println (doc.indented "")
      return 0
