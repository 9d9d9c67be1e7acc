import Testbed.Host.Children
import Testbed.Program

/-!
# The command line

* `main` gives the arguments, the setting for the log and the input to the program, and passes
  on what it prints and the status with which it ends.
-/

namespace Testbed.Main

/-- The name of the environment variable that says which records are shown. -/
def settingName : String := "RUST_LOG"

/-- Reads a stream to its end. -/
partial def readAll (stream : IO.FS.Stream) (before : Bytes) : IO Bytes := do
  let block ← stream.read 65536
  if block.isEmpty then return before else readAll stream (before ++ block.toList)

/-- Reads the input, unless it would have to be typed. -/
def readInput : IO Bytes := do
  let stream ← IO.getStdin
  if ← stream.isTty then return [] else readAll stream []

/-- Writes bytes to a stream. -/
def writeAll (stream : IO.FS.Stream) (bytes : Bytes) : IO Unit := do
  stream.write (ByteArray.mk bytes.toArray)
  stream.flush

end Testbed.Main

/-- Runs the program on a fresh host. -/
def main (args : List String) : IO UInt32 := do
  let setting ← IO.getEnv Testbed.Main.settingName
  let input ← Testbed.Main.readInput
  let children := Testbed.Host.children Testbed.Host.defaultEnvironment
  let outcome := Testbed.Program.run children .one setting (args.map Testbed.utf8)
    Testbed.Host.freshFiles input
  Testbed.Main.writeAll (← IO.getStdout) outcome.output
  Testbed.Main.writeAll (← IO.getStderr) outcome.errors
  return UInt32.ofNat outcome.status
