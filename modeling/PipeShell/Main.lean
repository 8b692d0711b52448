import PipeShell.Host.Standard
import PipeShell.Program.Run
import PipeShell.Session

/-!
# The command line

Runs one session on a host of its own: the lines come from the standard input, and what the session
wrote to its terminal goes to the standard output and the standard error.
-/

namespace PipeShell.Main

def variableNames : List String :=
  ["PATH", "HOME", "TMPDIR", "TERM", "LC_ALL", "CLICOLOR_FORCE", "RIPPLE_PROMPT", "RIPPLE_THEME",
    "RIPPLE_EDITOR", "RIPPLE_HISTORY", "RIPPLE_HISTORY_SIZE", "RIPPLE_COMPLETION",
    "RIPPLE_LOG_LEVEL", "RIPPLE_LOG_DIR", "RIPPLE_LOG_STDERR"]

def environment : IO Environment := do
  let values ← variableNames.mapM fun name => do
    return (← IO.getEnv name).map fun value => (name, value)
  return values.filterMap id

partial def readAll (stream : IO.FS.Stream) (found : ByteArray) : IO ByteArray := do
  let block ← stream.read 65536
  if block.isEmpty then return found else readAll stream (found ++ block)

end PipeShell.Main

open PipeShell in
def main : IO UInt32 := do
  let input ← Main.readAll (← IO.getStdin) ByteArray.empty
  let host := { Host.standard with
    environment := ← Main.environment
    terminalIn := input.data.toList
    terminalSize := some input.size }
  let (code, host) := Session.run Program.behaviour host
  (← IO.getStdout).write ⟨host.terminalOut.toArray⟩
  (← IO.getStderr).write ⟨host.terminalErr.toArray⟩
  return UInt32.ofNat code
