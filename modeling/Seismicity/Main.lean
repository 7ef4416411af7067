import Seismicity.Command.Run

/-!
# The Command Line

Summarises, collapses and enumerates the point sources of a model file.
-/

namespace Seismicity

/-- Why a file cannot be opened. -/
def FileFault.ofError : IO.Error → FileFault
  | .noFileOrDirectory _ _ _ => .missing
  | .inappropriateType none _ _ => .directory
  | .inappropriateType (some _) _ _ => .notDirectory
  | .permissionDenied _ _ _ => .denied
  | error => .other (toString error)

/-- Reads the text of a file, or says why it cannot be read. -/
def readFile (path : String) : IO (Except FileFault String) := do
  try
    match String.fromUTF8? (← IO.FS.readBinFile path) with
    | some text => return .ok text
    | none => return .error .notText
  catch error => return .error (FileFault.ofError error)

/-- Runs an invocation: output lines, then the log and a failure. -/
def perform (invocation : Invocation) : IO UInt32 := do
  let outcome := invocation.run (← readFile invocation.path)
  for line in outcome.output do
    IO.println line.render
  for entry in outcome.log invocation.verbose do
    IO.eprint entry
  match outcome.failure with
  | none => pure ()
  | some error => IO.eprintln error.report
  return UInt32.ofNat outcome.status

end Seismicity

/-- The program. -/
def main (args : List String) : IO UInt32 :=
  match Seismicity.Arguments.parse args with
  | .ok invocation => Seismicity.perform invocation
  | .error .help => do
    IO.println "usage: [-v] [-t COUNT] (info | collapse | ruptures) MODEL [OPTIONS]"
    return 0
  | .error .version => do
    IO.println Seismicity.Arguments.versionLine
    return 0
  | .error .usage => do
    IO.eprintln "usage: [-v] [-t COUNT] (info | collapse | ruptures) MODEL [OPTIONS]"
    return 2
