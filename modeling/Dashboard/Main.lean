import Dashboard.CommandLine
/-!
# The program
-/
namespace Dashboard.CommandLine

/-- Reads all bytes of a stream. -/
partial def readToEnd (stream : IO.FS.Stream) (read : ByteArray := .empty) : IO ByteArray := do
  let bytes ← stream.read 65536
  if bytes.isEmpty then return read else readToEnd stream (read ++ bytes)

/-- What an error of the system says. Some calls change the sign of its number. -/
def whyNumber? (number : UInt32) : Option Unreadable :=
  match number.toInt32.toInt.natAbs with
  | 2 => some .missing
  | 13 => some (.other "Permission denied (os error 13)")
  | 20 => some .notADirectory
  | 21 => some .directory
  | 36 => some .nameTooLong
  | 40 => some (.other "Too many levels of symbolic links (os error 40)")
  | _ => none

def whyUnreadable (e : IO.Error) : Unreadable :=
  let why? : Option Unreadable := match e with
    | .noFileOrDirectory _ number _ | .inappropriateType _ number _
    | .invalidArgument _ number _ | .permissionDenied _ number _
    | .resourceExhausted _ number _ | .otherError number _ => whyNumber? number
    | _ => none
  why?.getD (.other (toString e))

/-- The text at a path, or why it cannot be had. -/
def textAt (path : String) : IO (Except Unreadable String) := do
  try
    decode <$> (if path = "-" then do readToEnd (← IO.getStdin) else IO.FS.readBinFile path)
  catch e => return .error (whyUnreadable e)

end Dashboard.CommandLine

open Dashboard.CommandLine in
def main (args : List String) : IO UInt32 := do
  let output ← match Arguments.ofList? args with
    | none => pure usage
    | some arguments => run {} arguments <$> textAt arguments.path
  (← IO.getStdout).putStr output.out
  (← IO.getStderr).putStr output.err
  return output.code
