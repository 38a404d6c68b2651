import LineShell.Machine
import LineShell.Program

/-!
# The command line

The program on a machine that is held in memory. Settings come from the environment, lines from the
standard input; what the shell and its programs write goes out after every line.
-/

namespace LineShell.Main

/-- The variables that settings are read from. -/
def settingNames : List String :=
  ["PATH", "HOME", "MINISH_PROMPT", "MINISH_LOG_LEVEL"]

/-- The settings in the environment. -/
def readEnvironment : IO Environment := do
  let entries ← settingNames.mapM fun name ↦ do
    return (← IO.getEnv name).map fun value ↦ (name, value)
  return entries.filterMap id

/-- Write out what programs wrote and what was shown on the terminal. The programs come first, so
that the prompt that follows a line stands after them. -/
def flush (terminal : Terminal) (host : Host) : IO Unit := do
  let stdout ← IO.getStdout
  let stderr ← IO.getStderr
  stdout.putStr (Utf8.decode host.childStdout ++ terminal.stdout)
  stdout.flush
  stderr.putStr (Utf8.decode host.childStderr ++ terminal.stderr)

/-- A conversation after everything that was written has gone out. -/
def flushed (conversation : Conversation) : IO Conversation := do
  let state := conversation.state
  flush state.terminal state.host
  let host := { state.host with childStdout := [], childStderr := [] }
  return { conversation with state := { state with terminal := {}, host } }

/-- The exit code for an ending, after a fault was reported. -/
def exitCode : Ending → IO UInt32
  | .exited code => return UInt32.ofNat (code % 256).toNat
  | .failed fault => do
    (← IO.getStderr).putStr (shellMessage fault.message)
    return 1

/-- Hold a conversation over the lines of the standard input. -/
partial def converse (shell : Shell) (conversation : Conversation) : IO UInt32 := do
  let conversation ← flushed conversation
  let text ← (← IO.getStdin).getLine
  if text.isEmpty then return 0
  let line := if text.endsWith "\n" then (text.dropEnd 1).toString else text
  let (outcome, conversation) := conversation.take shell (.line line)
  match outcome, conversation.state.exitStatus with
  | .error fault, _ => do
    let _ ← flushed conversation
    exitCode (.failed fault)
  | .ok (), some code => do
    let _ ← flushed conversation
    exitCode (.exited code)
  | .ok (), none => converse shell conversation

/-- Run the program. -/
def run (arguments : List String) : IO UInt32 := do
  let environment ← readEnvironment
  let surroundings : Surroundings :=
    { environment
      host := { tree := Machine.standardTree }
      launcher := Machine.launcher environment }
  match Program.start surroundings arguments with
  | .ended outcome => do
    flush outcome.terminal outcome.host
    exitCode outcome.ending
  | .conversing shell conversation => converse shell conversation

end LineShell.Main

def main (arguments : List String) : IO UInt32 :=
  LineShell.Main.run arguments
