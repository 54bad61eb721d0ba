import RuleScanner.Command.Basic

/-!
# The program

Reads the arguments, the log filter and the file, and writes what the command says.
-/

namespace RuleScanner

/-- Why a file cannot be read, by the error of the system. Its number may come with a minus sign. -/
def ReadError.ofError : IO.Error → ReadError
  | .otherError code details | .resourceBusy code details | .resourceVanished code details | .unsupportedOperation code details
  | .hardwareFault code details | .unsatisfiedConstraints code details | .illegalOperation code details
  | .protocolError code details | .timeExpired code details | .alreadyExists _ code details | .interrupted _ code details
  | .noFileOrDirectory _ code details | .invalidArgument _ code details | .permissionDenied _ code details
  | .resourceExhausted _ code details | .inappropriateType _ code details | .noSuchThing _ code details =>
    .system (min code (-code)).toNat details
  | error => .other (toString error)

/-- The bytes of the file under a path, or why they cannot be read. -/
def readFile (path : String) : IO (Except ReadError ByteArray) := do
  try
    return .ok (← IO.FS.readBinFile path)
  catch error => return .error (.ofError error)

end RuleScanner

open RuleScanner in
/-- The command line. -/
def main (arguments : List String) : IO UInt32 := do
  let filter := (← IO.getEnv "RUST_LOG").bind LogFilter.parse?
  let content ← match arguments with
    | "lex" :: path :: _ => readFile path
    | _ => pure (.ok .empty)
  let outcome := Command.run (fun _ => content) filter arguments
  (← IO.getStdout).putStr outcome.output
  (← IO.getStderr).putStr outcome.errors
  return outcome.status
