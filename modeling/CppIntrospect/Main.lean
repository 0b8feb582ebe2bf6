import CppIntrospect.CommandLine.Run

/-! The program itself: it reads the files that a command names, and prints what comes of it. -/

namespace CppIntrospect.CommandLine

/-- The bytes of a file, if it can be read. -/
def readBytes (path : String) : IO (Option ByteArray) := do
  try
    return some (← IO.FS.readBinFile path)
  catch _ =>
    return none

/-- An event as a line of the log. -/
def eventLine (event : Event) : String :=
  event.details.foldl (fun line (name, value) => line ++ " " ++ name ++ "=" ++ value)
    (event.level.name ++ " " ++ event.message)

/-- Prints the events, traces excepted, and the complaints to the standard error, and the
output to the standard output. -/
def Outcome.print (outcome : Outcome) (verbose : Bool) : IO UInt32 := do
  if verbose then
    for event in outcome.events do
      if event.level ≠ .trace then IO.eprintln (eventLine event)
  IO.print outcome.output
  for complaint in outcome.complaints do
    IO.eprintln complaint
  return outcome.exitCode.toUInt32

end CppIntrospect.CommandLine

open CppIntrospect CommandLine in
def main (arguments : List String) : IO UInt32 := do
  match Invocation.parse arguments with
  | .error stop => stop.outcome.print false
  | .ok invocation =>
    let contents ← invocation.command.paths.mapM fun path => do
      return (path, ← readBytes path)
    let outcome := invocation.command.run Manifest.parse fun path => (contents.lookup path).join
    outcome.print invocation.verbose
