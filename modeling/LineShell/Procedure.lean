import LineShell.Resolution

/-!
# Procedures of commands

What a command of the shell does when it is called. A procedure is a finite tree of requests: it
asks the shell for something, and what it does next depends on the answer. At its leaves it ends,
with a result or with a failure. A procedure cannot reach the shell or the host in any other way, so
what a command can change is read off the requests it makes.

Since procedures are data, the shell can hold a table of them without holding functions on itself.
-/

namespace LineShell

/-- One line of output. -/
def line (text : String) : String :=
  text ++ "\n"

/-- What a command leaves: the text for each stream, and its status. -/
structure CommandResult where
  stdout : String := ""
  stderr : String := ""
  exitCode : Int := 0
  deriving DecidableEq, Repr

namespace CommandResult

/-- A success that prints lines. -/
def output (lines : List String) : CommandResult :=
  { stdout := String.join (lines.map line) }

/-- A failure. Its message is output like any other and goes where the standard output goes. -/
def failure (message : String) (exitCode : Int := 1) : CommandResult :=
  { stdout := line message, exitCode }

end CommandResult

/-- What can stop the execution of a line from outside. -/
inductive Fault where
  /-- A path, an argument or a directory held a NUL character. -/
  | hasNul
  /-- The program that runs processes refused the request. -/
  | launcher (message : String)
  /-- Commands called each other too deeply. -/
  | nesting
  /-- Output could not leave the shell. -/
  | output (message : String)
  deriving DecidableEq, Repr

/-- What the user is told. -/
def Fault.message : Fault → String
  | .hasNul => "embedded null byte"
  | .launcher message => message
  | .nesting => "maximum recursion depth exceeded"
  | .output message => message

/-- What a command does, one request at a time. -/
inductive Procedure where
  /-- End with a result. -/
  | reply (result : CommandResult)
  /-- End with a message for the user. -/
  | refuse (message : String)
  /-- End with an unexpected failure. -/
  | crash (message : String)
  /-- Ask the shell to stop after this command. -/
  | requestExit (code : Int) (next : Procedure)
  /-- Execute a text as the user's own. -/
  | exec (text : String) (next : Except Fault CommandResult → Procedure)
  /-- Look at the session. -/
  | session (next : Session → Procedure)
  /-- Resolve a command name. -/
  | resolve (name : String) (next : Resolution → Procedure)
  /-- Look at what stands where a path leads. -/
  | stat (path : String) (next : Option Node → Procedure)
  /-- Change the working directory of the session. The answer tells whether that was possible. -/
  | chdir (path : String) (next : Except PathError Unit → Procedure)

/-- A command of the shell: what it does with its arguments. -/
abbrev Handler := List String → Procedure

end LineShell
