import LineShell.CommandTable
import LineShell.Delivery
import LineShell.Launch

/-!
# The state of a shell

A shell has a part that does not change while lines are executed, its commands and its launcher, and
a state that does. The state holds the session, the status that `exit` has asked for, what the
terminal has been shown, the host, and a journal of the commands and programs that were started.

An action of the shell changes the state and ends with a value or with a fault; the changes made
before a fault remain.
-/

namespace LineShell

/-- What the terminal has been shown on each stream. -/
structure Terminal where
  stdout : String := ""
  stderr : String := ""
  deriving DecidableEq, Repr

/-- Show something on a stream. -/
def Terminal.display (terminal : Terminal) : Stream → Output → Terminal
  | .stdout, output => { terminal with stdout := terminal.stdout ++ output.toText }
  | .stderr, output => { terminal with stderr := terminal.stderr ++ output.toText }

/-- Something that the shell started. -/
inductive Event where
  /-- A command of the shell was called. -/
  | called (name : String) (args : List String)
  /-- A program was launched. -/
  | launched (launch : Launch)
  deriving DecidableEq, Repr

/-- What changes while a shell executes lines. -/
structure State where
  session : Session
  /-- The status that the shell was asked to stop with, once it was asked. -/
  exitStatus : Option Int := none
  terminal : Terminal := {}
  host : Host := {}
  /-- What was started, in order. -/
  journal : List Event := []

/-- The programs that were launched, in order. -/
def State.launches (state : State) : List Launch :=
  state.journal.filterMap fun
    | .launched launch => some launch
    | .called _ _ => none

/-- A state whose session works in another directory. If the process follows the session, it moves
first, and where it cannot go the session does not go either; otherwise nobody is asked whether there
is such a directory. -/
def State.enter (state : State) (path : String) : Except PathError State := do
  let host ← if state.session.followProcess then state.host.chdir path else pure state.host
  return { state with host, session := { state.session with cwd := path } }

/-- What does not change while a shell executes lines. -/
structure Shell where
  commands : CommandTable Handler := standardCommands
  launcher : Launcher

/-- An action on the state of a shell. -/
abbrev Action := EStateM Fault State

namespace Action

/-- Ask the shell to stop. -/
def requestExit (code : Int) : Action Unit :=
  modify fun state ↦ { state with exitStatus := some code }

/-- Show something on the terminal. -/
def display (stream : Stream) (output : Output) : Action Unit :=
  modify fun state ↦ { state with terminal := state.terminal.display stream output }

/-- Write down that something was started. -/
def record (event : Event) : Action Unit :=
  modify fun state ↦ { state with journal := state.journal ++ [event] }

/-- Replace the host. -/
def setHost (host : Host) : Action Unit :=
  modify fun state ↦ { state with host }

/-- Do an action and take its fault, if it has one, as an answer. -/
def attempt {α : Type} (action : Action α) : Action (Except Fault α) := fun state ↦
  match action state with
  | .ok value state => .ok (.ok value) state
  | .error fault state => .ok (.error fault) state

/-- Change the working directory of the session. -/
def chdir (path : String) : Action (Except PathError Unit) := fun state ↦
  match state.enter path with
  | .ok state => .ok (.ok ()) state
  | .error error => .ok (.error error) state

end Action

end LineShell
