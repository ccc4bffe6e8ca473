import ReportGrid.Command.Run

/-!
# The command line

The program `rplan` runs the command over the real files.  It ends with 0 after a run, and after
help or the version; with 1 when a run fails; and with 2 when its arguments are wrong.
-/

namespace ReportGrid.CommandLine

/-- How the program is used. -/
def usage : String :=
  "Usage: rplan --template <FILE> --payload <FILE> [--output <FILE>] [--outputFormat json|html] " ++
    "[--configFile <FILE>] [--verbose]\n"

/-- The number of an error of the operating system, which may be given with a minus sign. -/
def errorNumber (code : UInt32) : Nat :=
  if code < 0x80000000 then code.toNat else (0 - code).toNat

/-- The cause of an error of the operating system. -/
def fileError (e : IO.Error) : FileError :=
  match e with
  | .noFileOrDirectory .. => .notFound
  | .inappropriateType _ code _ => if errorNumber code = 21 then .isDirectory else .notDirectory
  | .invalidArgument _ code details =>
    if errorNumber code = 36 then .nameTooLong else .other details
  | .permissionDenied _ code _ =>
    .other ("Permission denied (os error " ++ toString (errorNumber code) ++ ")")
  | e => .other (toString e)

/-- Turns a failure of an action into a value. -/
def attempt {α : Type} (action : IO α) : IO (Except FileError α) := do
  try
    return .ok (← action)
  catch e =>
    return .error (fileError e)

/-- The operations of a run on the real files. -/
def workspace : Workspace IO where
  readFile path := attempt (IO.FS.readBinFile path)
  readInput := do (← IO.getStdin).readBinToEnd
  writeFile path text := attempt (IO.FS.writeFile path text)
  print text := do
    let out ← IO.getStdout
    out.putStr text
    out.flush
  note text := do (← IO.getStderr).putStrLn text

/-- Tells the reader how the program ended, where the run itself has not. -/
def report : Outcome → IO Unit
  | .failed error => do (← IO.getStderr).putStrLn ("error: " ++ error.message)
  | .stopped .usage => do (← IO.getStderr).putStr usage
  | .stopped .help => do (← IO.getStdout).putStr usage
  | _ => pure ()

end ReportGrid.CommandLine

/-- The program. -/
def main (args : List String) : IO UInt32 := do
  let outcome ← ReportGrid.Command.start ReportGrid.CommandLine.workspace args
  ReportGrid.CommandLine.report outcome
  return outcome.exitCode
