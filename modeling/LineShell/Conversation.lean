import LineShell.LineEditor
import LineShell.Shell.Exec

/-!
# Conversations with a user

The shell shows a prompt and waits. The user types a line, which is executed, or breaks the line
off, or presses the completion key, which leaves the prompt where it is. A conversation ends when a
command asks the shell to stop or when the input ends.

A conversation is a machine that takes one input at a time; the input that is left when it ends is
never looked at.
-/

namespace LineShell

/-- Something that the user does at a prompt. -/
inductive Input where
  | line (text : String)
  /-- Break the line off. -/
  | interrupt
  | press (press : Press)
  deriving DecidableEq, Repr

/-- How a run of the shell ends. -/
inductive Ending where
  | exited (code : Int)
  | failed (fault : Fault)
  deriving DecidableEq, Repr

/-- A conversation between two inputs. -/
structure Conversation where
  prompt : String
  state : State
  /-- What completes lines. There is none if the input is no terminal. -/
  editor : Option LineEditor := none
  /-- How often the prompt was shown. -/
  prompts : Nat := 0
  /-- What the line editor was answered, press by press. -/
  answers : List (Option String) := []

namespace Conversation

/-- Show something on the standard output. -/
def display (conversation : Conversation) (text : String) : Conversation :=
  let state := conversation.state
  { conversation with
    state := { state with terminal := state.terminal.display .stdout (.text text) } }

/-- Show the prompt. -/
def ask (conversation : Conversation) : Conversation :=
  { conversation.display conversation.prompt with prompts := conversation.prompts + 1 }

/-- Take a line. The prompt is shown again unless the line asks the shell to stop. -/
def takeLine (conversation : Conversation) (shell : Shell) (text : String) :
    Except Fault Unit × Conversation :=
  match shell.exec text conversation.state with
  | .error fault state => (.error fault, { conversation with state })
  | .ok _ state =>
    let conversation := { conversation with state }
    (.ok (), if state.exitStatus.isSome then conversation else conversation.ask)

/-- Take a press of the completion key. -/
def takePress (conversation : Conversation) (shell : Shell) (press : Press) :
    Except Fault Unit × Conversation :=
  match conversation.editor with
  | none => (.ok (), { conversation with answers := conversation.answers ++ [none] })
  | some editor =>
    let (outcome, editor, state) := editor.press shell conversation.state press
    let conversation := { conversation with state, editor := some editor }
    match outcome with
    | .error fault => (.error fault, conversation)
    | .ok answer => (.ok (), { conversation with answers := conversation.answers ++ [answer] })

/-- Take one input. -/
def take (conversation : Conversation) (shell : Shell) : Input → Except Fault Unit × Conversation
  | .line text => conversation.takeLine shell text
  | .interrupt => (.ok (), (conversation.display "\n").ask)
  | .press press => conversation.takePress shell press

/-- Take inputs until the conversation ends. At the end of the input the status is zero. -/
def run (shell : Shell) (conversation : Conversation) : List Input → Ending × Conversation
  | [] => (.exited 0, conversation)
  | input :: rest =>
    match conversation.take shell input with
    | (.error fault, conversation) => (.failed fault, conversation)
    | (.ok (), conversation) =>
      match conversation.state.exitStatus with
      | some code => (.exited code, conversation)
      | none => conversation.run shell rest

/-- Start a conversation in a state. -/
def start (state : State) (prompt : String) (isTerminal : Bool) : Conversation :=
  ask { prompt, state, editor := if isTerminal then some { prompt } else none }

end Conversation

end LineShell
