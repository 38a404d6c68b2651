import LineShell.Shell.State

/-!
# Where output goes to

Output leaves the shell in two ways, and each can fail. A text that is written to a file is turned
into bytes first, and a text may hold something that has none, such as half of a surrogate pair. A
stream of the terminal may refuse what it is given. The outlets of a shell are what decides both.

Neither is a failure of a target: the shell does not turn it into a message, it ends the action with
a fault. What a stream took before it refused the rest stays shown. `Outlets.working` refuses
nothing.
-/

namespace LineShell

/-- Showing nothing changes nothing. -/
theorem Terminal.display_of_isEmpty (terminal : Terminal) (stream : Stream) {output : Output}
    (h : output.isEmpty = true) : terminal.display stream output = terminal := by
  have hnone : output.toText = "" := by
    cases output with
    | text content => exact String.isEmpty_iff.mp h
    | bytes content =>
      obtain rfl := List.isEmpty_iff.mp h
      rfl
  cases stream <;> rw [display, hnone, String.append_empty]

/-- How output leaves the shell. -/
structure Outlets where
  /-- The bytes of a text, or what is said of a text that has none. -/
  encode : String → Except String Bytes := fun text ↦ .ok (Utf8.encode text)
  /-- The terminal after something was written to one of its streams, and what is said if the stream
  refused it. -/
  write : Terminal → Stream → Output → Terminal × Option String :=
    fun terminal stream output ↦ (terminal.display stream output, none)

namespace Outlets

/-- Outlets that take everything. -/
def working : Outlets := {}

variable (outlets : Outlets)

/-- What a file receives. -/
def bytes : Output → Except String Bytes
  | .text content => outlets.encode content
  | .bytes content => .ok content

/-- Show something on the terminal. If there is nothing to show, the stream is not asked. -/
def display (stream : Stream) (output : Output) : Action Unit := do
  if output.isEmpty then return ()
  let (terminal, refusal?) := outlets.write (← get).terminal stream output
  modify fun state ↦ { state with terminal }
  match refusal? with
  | none => return ()
  | some message => throw (.output message)

/-- Whether the outlets may say this of something that they are given. -/
def Says (message : String) : Prop :=
  (∃ text, outlets.encode text = .error message) ∨
    ∃ terminal stream output, (outlets.write terminal stream output).2 = some message

/-! ## Working outlets -/

theorem bytes_working (output : Output) : working.bytes output = .ok output.toBytes := by
  cases output <;> rfl

/-- Not to ask a stream comes to showing nothing. -/
theorem display_working (stream : Stream) (output : Output) :
    working.display stream output = Action.display stream output := by
  funext state
  cases hempty : output.isEmpty with
  | false =>
    rw [display, hempty]
    rfl
  | true =>
    rw [display, hempty]
    change EStateM.Result.ok () state
      = .ok () { state with terminal := state.terminal.display stream output }
    rw [state.terminal.display_of_isEmpty stream hempty]

theorem not_says_working (message : String) : ¬working.Says message := by
  rintro (⟨text, htext⟩ | ⟨terminal, stream, output, hwrite⟩)
  · exact nomatch htext
  · exact nomatch hwrite

end Outlets

end LineShell
