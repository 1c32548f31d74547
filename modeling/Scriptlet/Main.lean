import Scriptlet.Command.Answer

/-!
The command itself: it reads files, prints the answer and exits.
-/

namespace Scriptlet.Command

/-- The bytes of a file, when it can be read. -/
def fileBytes? (path : String) : IO (Option ByteArray) := do
  try
    return some (← IO.FS.readBinFile path)
  catch _ =>
    return none

end Scriptlet.Command

open Scriptlet

def main (args : List String) : IO UInt32 := do
  let answer ← Command.answer Command.fileBytes? args
  IO.print answer.stdout
  IO.eprint answer.stderr
  return answer.exit.toUInt32
