import LineShell.Host
import LineShell.Redirection

/-!
# Launching programs

What the shell asks for when it starts a program, and what it can learn. How a program behaves is
not the shell's affair: a launcher is any function from the host and the request to the outcome and
the host afterwards. Streams that the request asks to capture come back as bytes; the others go to
the streams that the process inherits, which belong to the host.
-/

namespace LineShell

/-- A request to run a program. -/
structure Launch where
  /-- Where the program is. -/
  path : String
  /-- The name that it is called by, and its arguments. -/
  argv : List String
  stdio : Redirection.Stdio
  /-- The directory that it runs in. -/
  cwd : String
  deriving DecidableEq, Repr

/-- What is left of a program that ran. -/
structure Finished where
  /-- The exit code; a program that a signal stopped has the negative number of the signal. -/
  exitCode : Int := 0
  stdout : Option Bytes := none
  stderr : Option Bytes := none
  deriving DecidableEq, Repr

/-- Why a program could not be started, as the system words it. -/
inductive StartFailure where
  /-- The system says nothing. -/
  | silent
  /-- The system gives a text. -/
  | worded (text : String)
  /-- The system gives an error number and the reason that goes with it. -/
  | numbered (number : Int) (reason : String)
  deriving DecidableEq, Repr

/-- What the user is told: the reason, or the number if there is none. -/
def StartFailure.reason : StartFailure → String
  | .silent => ""
  | .worded text => text
  | .numbered number reason =>
    if reason.isEmpty then "[Errno " ++ toString number ++ "] " else reason

/-- Why there is no program that ran. -/
inductive LaunchError where
  | notStarted (failure : StartFailure)
  /-- The request itself was refused, because it holds a NUL character. -/
  | hasNul
  /-- The request itself was refused, for a reason of the launcher's own. -/
  | refused (message : String)
  deriving DecidableEq, Repr

/-- What runs programs. -/
abbrev Launcher := Host → Launch → Except LaunchError Finished × Host

end LineShell
