import SpatialGrammar.CommandLine.Basic
import SpatialGrammar.Report.Duration

/-!
# The program

Runs the command line on the system: files, the standard streams and the clock.
-/

open SpatialGrammar.CommandLine

/-- The reason of a system error with its number. -/
def systemReason (e : IO.Error) : String :=
  match e with
  | .noFileOrDirectory _ code details | .inappropriateType (some _) code details
  | .permissionDenied (some _) code details => details ++ " (os error " ++ toString code ++ ")"
  | e => toString e

/-- The text of bytes. -/
def decodeText (bytes : ByteArray) : Except String String :=
  match String.fromUTF8? bytes with
  | some text => .ok text
  | none => .error "stream did not contain valid UTF-8"

/-- Reads bytes as a text. -/
def readText (read : IO ByteArray) : IO (Except String String) := do
  try return decodeText (← read)
  catch e => return .error (systemReason e)

/-- Reads a stream to its end. -/
partial def readAll (stream : IO.FS.Stream) (found : ByteArray) : IO ByteArray := do
  let more ← stream.read 65536
  if more.isEmpty then return found else readAll stream (found ++ more)

/-- The system that the program runs on. -/
def system : Surroundings IO where
  fileText file := readText (IO.FS.readBinFile file)
  inputText := do readText (readAll (← IO.getStdin) ByteArray.empty)
  measure f := do
    let before ← IO.monoNanosNow
    let value ← IO.lazyPure f
    let after ← IO.monoNanosNow
    return (value, after - before)
  showDuration := SpatialGrammar.Report.Duration.text

def main (arguments : List String) : IO UInt32 := do
  let terminal ← (← IO.getStdout).isTty
  let outcome ← execute system terminal arguments
  (← IO.getStdout).putStr outcome.output
  (← IO.getStderr).putStr outcome.errors
  return outcome.code.toUInt32
