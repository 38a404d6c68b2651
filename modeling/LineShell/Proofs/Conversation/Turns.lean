import LineShell.Conversation
import LineShell.Proofs.Shell.Execution

/-!
# Turns of a conversation

A turn is what happens at one prompt: the user gives a line, breaks a line off, or ends the input.
`Conversation.turns` lists the turns that a conversation comes to, with the state that each of them
begins in, so that what was dispatched and what was shown can be read off the turns.

A conversation ends in a turn that has a fault, in a turn that asks the shell to stop, or with the
input; otherwise the next turn begins (`Conversation.held_of_fault`, `Conversation.held_of_exit`,
`Conversation.held_of_next`).
-/

namespace LineShell

/-! ## Turns -/

/-- What the user answers to a prompt. -/
inductive Answer where
  | line (text : String)
  /-- A line that is broken off. -/
  | interrupt
  | endOfInput
  deriving DecidableEq, Repr

/-- The answer that gives a line, or none because it is broken off. -/
def Answer.ofLine? : Option String → Answer
  | some text => .line text
  | none => .interrupt

/-- The input that gives a line, or none because it is broken off. -/
def Input.ofLine? : Option String → Input
  | some text => .line text
  | none => .interrupt

/-- What happens at one prompt. -/
structure Turn where
  answer : Answer
  /-- The state that the answer was given in. -/
  state : State

namespace Turn

/-- The commands that are dispatched in a turn. -/
def dispatched (shell : Shell) (turn : Turn) : List Command :=
  match turn.answer with
  | .line text => shell.dispatched text turn.state
  | .interrupt | .endOfInput => []

/-- What the commands of a turn show. -/
def shown (shell : Shell) (turn : Turn) : Terminal :=
  match turn.answer with
  | .line text => shell.shows text turn.state
  | .interrupt | .endOfInput => {}

/-- What the user sees of a turn: the prompt, and what the commands show or, if the line is broken
off, a line feed. -/
def seen (shell : Shell) (prompt : String) (turn : Turn) : Terminal :=
  { stdout := prompt } ++
    match turn.answer with
    | .line text => shell.shows text turn.state
    | .interrupt => { stdout := "\n" }
    | .endOfInput => {}

end Turn

/-- The turns of a conversation, beginning at a prompt, until it ends. -/
def Conversation.turns (shell : Shell) (conversation : Conversation) :
    List (Option String) → List Turn
  | [] => [⟨.endOfInput, conversation.state⟩]
  | line? :: rest =>
    ⟨.ofLine? line?, conversation.state⟩ ::
      match conversation.take shell (.ofLine? line?) with
      | (.error _, _) => []
      | (.ok (), next) =>
        match next.state.exitStatus with
        | some _ => []
        | none => next.turns shell rest

namespace Terminal

/-- What a terminal shows when all this is shown in order. -/
def join (terminals : List Terminal) : Terminal :=
  terminals.foldr (· ++ ·) {}

@[simp] theorem join_nil : join [] = {} := rfl

@[simp] theorem join_cons (terminal : Terminal) (rest : List Terminal) :
    join (terminal :: rest) = terminal ++ join rest := rfl

end Terminal

/-! ## What a conversation comes to -/

/-- What a conversation comes to. -/
structure Held where
  ending : Ending
  last : Conversation
  turns : List Turn

namespace Conversation

/-- What a conversation comes to, beginning at a prompt, when the user gives lines, breaks lines off
and then ends the input. -/
def held (shell : Shell) (conversation : Conversation) (events : List (Option String)) : Held where
  ending := (conversation.run shell (events.map .ofLine?)).1
  last := (conversation.run shell (events.map .ofLine?)).2
  turns := conversation.turns shell events

/-! ## One turn of a conversation -/

variable {shell : Shell} {conversation next : Conversation} {line? : Option String}
  (rest : List (Option String))

/-- A fault in a turn ends the conversation. -/
theorem held_of_fault {fault : Fault}
    (htake : conversation.take shell (.ofLine? line?) = (.error fault, next)) :
    conversation.held shell (line? :: rest)
      = ⟨.failed fault, next, [⟨.ofLine? line?, conversation.state⟩]⟩ := by
  rw [held, List.map_cons, run, turns, htake]

section

variable (htake : conversation.take shell (.ofLine? line?) = (.ok (), next))
include htake

/-- A request to stop ends the conversation. -/
theorem held_of_exit {code : Int} (hexit : next.state.exitStatus = some code) :
    conversation.held shell (line? :: rest)
      = ⟨.exited code, next, [⟨.ofLine? line?, conversation.state⟩]⟩ := by
  rw [held, List.map_cons, run, turns, htake]
  dsimp only
  rw [hexit]

/-- Otherwise the conversation goes on with the next turn. -/
theorem held_of_next (hrunning : next.state.exitStatus = none) :
    conversation.held shell (line? :: rest)
      = { next.held shell rest with
          turns := ⟨.ofLine? line?, conversation.state⟩ :: next.turns shell rest } := by
  rw [held, List.map_cons, run, turns, htake]
  dsimp only
  rw [hrunning]
  rfl

end

theorem take_interrupt : conversation.take shell (.ofLine? none)
    = (.ok (), (conversation.display "\n").ask) := rfl

theorem take_line_of_error {text : String} {fault : Fault} {after : State}
    (hexec : shell.exec text conversation.state = .error fault after) :
    conversation.take shell (.ofLine? (some text))
      = (.error fault, { conversation with state := after }) := by
  rw [Input.ofLine?, take, takeLine, hexec]

theorem take_line_of_ok {text : String} {result : CommandResult} {after : State}
    (hexec : shell.exec text conversation.state = .ok result after) :
    conversation.take shell (.ofLine? (some text))
      = (.ok (), if after.exitStatus.isSome then { conversation with state := after }
          else ask { conversation with state := after }) := by
  rw [Input.ofLine?, take, takeLine, hexec]

theorem terminal_ask (conversation : Conversation) : conversation.ask.state.terminal
    = conversation.state.terminal ++ { stdout := conversation.prompt } := by
  rw [Terminal.append_def, String.append_empty]
  rfl

end Conversation

end LineShell
