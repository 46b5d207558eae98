import DebugTypes.CommandLine.Run

/-!
# The program

The program runs a command on the files of the system.  It prints the output, and sends the log and
the report of a failure to the standard error stream.
-/

namespace DebugTypes.CommandLine

/-- The fault that an error of the system stands for. -/
def faultOfError : IO.Error → FileFault
  | .noFileOrDirectory _ _ _ => .notFound
  | .inappropriateType _ 20 _ => .notFolder
  | .inappropriateType _ _ _ => .isFolder
  | .invalidArgument _ 36 _ => .nameTooLong
  | e => .other (toString e)

/-- Reading and writing the files of the system. -/
def systemFiles : Files IO where
  read path := do
    try
      return .ok (← IO.FS.readBinFile path)
    catch e => return .error (faultOfError e)
  write path text := do
    try
      IO.FS.writeFile path text
      return .ok ()
    catch e => return .error (faultOfError e)

end DebugTypes.CommandLine

open DebugTypes CommandLine in
/-- Run a command. -/
def main (args : List String) : IO UInt32 := do
  match ← run systemFiles args with
  | none =>
    IO.eprintln "usage: (list | show | json | check) FILE ..."
    return UInt32.ofNat usageExitCode
  | some outcome =>
    for event in outcome.log do
      IO.eprintln event.line
    IO.print outcome.output
    if outcome.failure.isSome then
      IO.eprintln outcome.report
    return UInt32.ofNat outcome.exitCode
