import FlagBinding.Plugin.Run

/-!
# The program

The program reads a request from its input and writes the response to its output.

## Main definitions

* `main`: runs the program.
-/

open FlagBinding

/-- All bytes of a stream, of which some have been read. -/
partial def readBytes (stream : IO.FS.Stream) (before : ByteArray) : IO ByteArray := do
  let chunk ← stream.read 65536
  if chunk.isEmpty then return before else readBytes stream (before ++ chunk)

/-- Runs the program. The input is read only for a request. -/
def main (arguments : List String) : IO UInt32 := do
  let action := Action.ofArguments arguments
  let input ← if action = .respond then readBytes (← IO.getStdin) .empty else pure .empty
  let ending := action.run input.toList
  let stdout ← IO.getStdout
  stdout.write ⟨ending.output.toArray⟩
  stdout.flush
  (← IO.getStderr).putStr ending.errors
  return UInt32.ofNat ending.code
