import Pipescript.CommandLine
import Pipescript.Text.Utf8

/-!
# The program

Only this module reads files and prints.
-/

open Pipescript

/-- Everything that a stream still holds. -/
partial def readAll (stream : IO.FS.Stream) (before : ByteArray) : IO ByteArray := do
  let chunk ← stream.read 65536
  if chunk.isEmpty then return before
  readAll stream (before ++ chunk)

/-- The text of a file or of the standard input.  What cannot be read is complained about. -/
def readScript (file : Text) : IO (Option Text) := do
  try
    let bytes ←
      if CommandLine.isStandardInput file then readAll (← IO.getStdin) ByteArray.empty
      else IO.FS.readBinFile (String.ofList file)
    match Text.ofUtf8? bytes.toList with
    | some script => return some script
    | none =>
        IO.eprintln "error: the input is not UTF-8"
        return none
  catch error =>
    IO.eprintln s!"error: {error}"
    return none

def main (arguments : List String) : IO UInt32 := do
  let texts := arguments.map String.toList
  let color := (← IO.getEnv "NO_COLOR").isNone && (← IO.getEnv "FORCE_COLOR").isSome
  let script ← match CommandLine.readArguments {} texts with
    | .ok (.print _ file) => readScript file
    | _ => pure none
  let outcome := CommandLine.run color texts fun _ => script
  IO.print (String.ofList outcome.output)
  if let some complaint := outcome.complaint then
    IO.eprint (String.ofList complaint)
  return UInt32.ofNat outcome.exitCode
