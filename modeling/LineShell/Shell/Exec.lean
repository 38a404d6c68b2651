import LineShell.Command
import LineShell.Shell.Outlets
import LineShell.Text.Lines

/-!
# Executing lines

A text is executed line by line: each line that holds a command is dispatched, until the text ends
or the shell was asked to stop. Dispatching a command empties its redirection targets, calls the
command of the shell with that name or launches the program that the name leads to, and delivers
what they wrote.

A command of the shell may execute text itself. Such a nested execution is one level deeper, and
`maxNesting` levels are the most there can be; executing is a recursion on the levels that are left,
and running a procedure is a recursion on the procedure.

All this is defined for any outlets. The shell itself, `Shell.exec` and what belongs to it, executes
with outlets that work; of these the equations say that every output arrives.
-/

namespace LineShell

/-- The message of the shell itself about something. -/
def shellMessage (message : String) : String :=
  line ("minish: " ++ message)

namespace Shell

/-! ## Commands of the shell -/

/-- What a name stands for in a shell. -/
def resolve (shell : Shell) (state : State) (name : String) : Resolution :=
  resolveName (shell.commands.contains name) state.host state.session name

/-- Run a procedure for the command of a name, given how text is executed one level deeper. A
procedure never ends with a fault: what goes wrong becomes the result of the command. -/
def runProcedure (shell : Shell) (nested : String → Action CommandResult) (name : String) :
    Procedure → Action CommandResult
  | .reply result => return result
  | .refuse message => return .failure message
  | .crash message => return .failure (name ++ " failed: " ++ message)
  | .requestExit code next => do
    Action.requestExit code
    shell.runProcedure nested name next
  | .exec text next => do
    let answer ← Action.attempt (nested text)
    shell.runProcedure nested name (next answer)
  | .session next => do
    shell.runProcedure nested name (next (← get).session)
  | .resolve other next => do
    shell.runProcedure nested name (next (shell.resolve (← get) other))
  | .stat path next => do
    shell.runProcedure nested name (next ((← get).host.stat? path))
  | .chdir path next => do
    let answer ← Action.chdir path
    shell.runProcedure nested name (next answer)

/-! ## Lines -/

/-- Execute lines in order, given how a command is carried out, with the result so far. Lines
without a command leave the result as it is, and nothing is executed once the shell was asked to
stop. -/
def execLines (dispatch : Command → Action CommandResult) (last : CommandResult) :
    List String → Action CommandResult
  | [] => return last
  | text :: rest => do
    if (← get).exitStatus.isSome then return last
    else match Command.parse? text with
      | none => execLines dispatch last rest
      | some command =>
        let result ← dispatch command
        execLines dispatch result rest

/-- The lines of a text. -/
def lines (text : String) : List String :=
  (Text.lines text.toList).map String.ofList

/-- How deeply commands may execute text that calls commands. -/
def maxNesting : Nat := 245

end Shell

namespace Outlets

variable (outlets : Outlets)

/-! ## Output -/

/-- Deliver the output for one stream: to its target if it has one, else to the terminal. A target
that cannot be written is reported on the terminal; a text without bytes is not the target's
failure, and is not reported. -/
def deliver (stream : Stream) (output : Output) (target? : Option Redirection.Target)
    (cwd : String) : Action Unit := do
  match target? with
  | none => outlets.display stream output
  | some target =>
    match outlets.bytes output with
    | .error message => throw (.output message)
    | .ok data =>
      match Redirection.writeTarget target data cwd (← get).host with
      | .ok host => Action.setHost host
      | .error .hasNul => throw .hasNul
      | .error error => outlets.display .stderr (.text (shellMessage error.message))

/-- Deliver what a command wrote, the standard output first. -/
def emit (result : CommandResult) (plan : Redirection.Plan) (cwd : String) : Action Unit := do
  outlets.deliver .stdout (.text result.stdout) plan.stdout cwd
  outlets.deliver .stderr (.text result.stderr) plan.stderr cwd

/-- Deliver what a program wrote to a stream that was captured for a target. -/
def deliverCaptured (stream : Stream) (captured? : Option Bytes)
    (target? : Option Redirection.Target) (cwd : String) : Action Unit := do
  match target?, captured? with
  | some target, some captured => outlets.deliver stream (.bytes captured) (some target) cwd
  | _, _ => return ()

/-! ## Programs -/

/-- What is left to do once a program was asked to run. -/
def conclude (command : Command) (cwd : String) :
    Except LaunchError Finished → Action CommandResult
  | .ok finished => do
    outlets.deliverCaptured .stdout finished.stdout command.plan.stdout cwd
    outlets.deliverCaptured .stderr finished.stderr command.plan.stderr cwd
    return { exitCode := finished.exitCode }
  | .error (.notStarted failure) => do
    let result := CommandResult.failure (command.name ++ ": " ++ failure.reason) 126
    outlets.emit result command.plan cwd
    return result
  | .error .hasNul => throw .hasNul
  | .error (.refused message) => throw (.launcher message)

/-- Launch the program that a command leads to. -/
def runExternal (shell : Shell) (command : Command) (cwd : String) : Action CommandResult := do
  match shell.resolve (← get) command.name with
  | .external path =>
    let launch : Launch := ⟨path, command.name :: command.args, command.plan.stdio, cwd⟩
    Action.record (.launched launch)
    let (outcome, host) := shell.launcher (← get).host launch
    Action.setHost host
    outlets.conclude command cwd outcome
  | _ =>
    let result := CommandResult.failure (command.name ++ ": command not found") 127
    outlets.emit result command.plan cwd
    return result

/-! ## Dispatch -/

/-- Give up a command that has a target which cannot be used. -/
def giveUp : Redirection.TargetError → Action CommandResult
  | .hasNul => throw .hasNul
  | error => do
    let message := shellMessage error.message
    outlets.display .stderr (.text message)
    return { stderr := message, exitCode := 1 }

/-- Run a command whose targets are prepared, given how text is executed one level deeper. -/
def runPrepared (shell : Shell) (nested : String → Action CommandResult) (command : Command)
    (cwd : String) : Action CommandResult := do
  match shell.commands.find? command.name with
  | some handler =>
    Action.record (.called command.name command.args)
    let result ← shell.runProcedure nested command.name (handler command.args)
    outlets.emit result command.plan cwd
    return result
  | none => outlets.runExternal shell command cwd

/-- Carry out a command, given how text is executed one level deeper. -/
def dispatchWith (shell : Shell) (nested : String → Action CommandResult) (command : Command) :
    Action CommandResult := do
  let state ← get
  let cwd := state.session.cwd
  let (prepared, host) := command.plan.prepare cwd state.host
  Action.setHost host
  match prepared with
  | .error error => outlets.giveUp error
  | .ok () => outlets.runPrepared shell nested command cwd

/-- Execute a text with so many levels left. -/
def execWithin (shell : Shell) : Nat → String → Action CommandResult
  | 0, _ => throw .nesting
  | levels + 1, text =>
    Shell.execLines (outlets.dispatchWith shell (execWithin shell levels)) {}
      (Shell.lines text)

/-- Execute a text. -/
def exec (shell : Shell) (text : String) : Action CommandResult :=
  outlets.execWithin shell (Shell.maxNesting + 1) text

/-- Carry out a command. -/
def dispatch (shell : Shell) (command : Command) : Action CommandResult :=
  outlets.dispatchWith shell (outlets.execWithin shell Shell.maxNesting) command

end Outlets

/-! ## Working outlets -/

namespace Shell

/-- Deliver the output for one stream. -/
def deliver (stream : Stream) (output : Output) (target? : Option Redirection.Target)
    (cwd : String) : Action Unit :=
  Outlets.working.deliver stream output target? cwd

theorem deliver_none (stream : Stream) (output : Output) (cwd : String) :
    deliver stream output none cwd = Action.display stream output :=
  Outlets.display_working stream output

theorem deliver_some (stream : Stream) (output : Output) (target : Redirection.Target)
    (cwd : String) :
    deliver stream output (some target) cwd = (do
      match Redirection.writeTarget target output.toBytes cwd (← get).host with
      | .ok host => Action.setHost host
      | .error .hasNul => throw .hasNul
      | .error error => Action.display .stderr (.text (shellMessage error.message))) := by
  rw [deliver, Outlets.deliver]
  simp only [Outlets.bytes_working, Outlets.display_working]

/-- Deliver what a command wrote. -/
def emit (result : CommandResult) (plan : Redirection.Plan) (cwd : String) : Action Unit :=
  Outlets.working.emit result plan cwd

/-- Deliver what a program wrote to a stream that was captured for a target. -/
def deliverCaptured (stream : Stream) (captured? : Option Bytes)
    (target? : Option Redirection.Target) (cwd : String) : Action Unit :=
  Outlets.working.deliverCaptured stream captured? target? cwd

/-- Launch the program that a command leads to. -/
def runExternal (shell : Shell) (command : Command) (cwd : String) : Action CommandResult :=
  Outlets.working.runExternal shell command cwd

theorem giveUp_refused (path : String) (e : FileError) :
    Outlets.working.giveUp (.refused path e) = (do
      Action.display .stderr (.text (shellMessage (path ++ ": " ++ e.reason)))
      return { stderr := shellMessage (path ++ ": " ++ e.reason), exitCode := 1 }) := by
  simp only [Outlets.giveUp, Outlets.display_working, Redirection.TargetError.message]

/-- Carry out a command, given how text is executed one level deeper. -/
def dispatchWith (shell : Shell) (nested : String → Action CommandResult) (command : Command) :
    Action CommandResult :=
  Outlets.working.dispatchWith shell nested command

/-- Execute a text with so many levels left. -/
def execWithin (shell : Shell) (levels : Nat) (text : String) : Action CommandResult :=
  Outlets.working.execWithin shell levels text

/-- Execute a text. -/
def exec (shell : Shell) (text : String) : Action CommandResult :=
  shell.execWithin (maxNesting + 1) text

/-- Carry out a command. -/
def dispatch (shell : Shell) (command : Command) : Action CommandResult :=
  shell.dispatchWith (shell.execWithin maxNesting) command

end Shell

end LineShell
