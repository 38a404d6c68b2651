import LineShell.Program

/-!
# Runs of the program

The arguments and the environment come first: if they are in order, a task is carried out with
settings, and what is left of that is left of the run (`Program.run_of_configure`). If the
environment is not, the run is over before a shell was started. The state that the shell is left in
tells more than the outcome does, since the outcome has no journal.
-/

namespace LineShell

/-- What is left of a run, without what the program itself has shown on the standard error. -/
def Outcome.withoutErrors (outcome : Outcome) : Outcome :=
  { outcome with terminal := { outcome.terminal with stderr := "" } }

namespace Program

theorem withoutErrors_endEarly (host : Host) (code : Int) (stdout stderr : String) :
    (endEarly host code stdout stderr).withoutErrors = endEarly host code stdout "" := rfl

/-- What the program comes to when it carries out a task with settings, and the state that its shell
is left in. -/
def carryOut (surroundings : Surroundings) (settings : Settings) (inputs : List Input) :
    Invocation.Task → Outcome × State
  | .exec text =>
    let (ending, state) := execText (shell surroundings) (initialState surroundings settings) text
    ({ ending, terminal := state.terminal, host := state.host }, state)
  | .converse =>
    let (ending, conversation) :=
      (Conversation.start (initialState surroundings settings) settings.prompt
        surroundings.isTerminal).run (shell surroundings) inputs
    (outcomeOf ending conversation, conversation.state)

/-- The state that the shell is left in when the program has run, if a shell was started. -/
def finalState? (surroundings : Surroundings) (arguments : List String) (inputs : List Input) :
    Option State :=
  match Invocation.ofArguments arguments with
  | .error _ => none
  | .ok invocation =>
    match configure surroundings invocation.flags with
    | .error _ => none
    | .ok settings => some (carryOut surroundings settings inputs invocation.task).2

section

variable {surroundings : Surroundings} {arguments : List String} {invocation : Invocation}
  (hinvocation : Invocation.ofArguments arguments = .ok invocation)
include hinvocation

theorem run_of_configure {settings : Settings}
    (h : configure surroundings invocation.flags = .ok settings) (inputs : List Input) :
    run surroundings arguments inputs
      = (carryOut surroundings settings inputs invocation.task).1 := by
  rw [run, start, hinvocation]
  dsimp only
  rw [startInvocation, h]
  cases invocation.task <;> rfl

theorem finalState?_of_configure {settings : Settings}
    (h : configure surroundings invocation.flags = .ok settings) (inputs : List Input) :
    finalState? surroundings arguments inputs
      = some (carryOut surroundings settings inputs invocation.task).2 := by
  simp only [finalState?, hinvocation, h]

theorem run_of_not_configured {error : ConfigurationError}
    (h : configure surroundings invocation.flags = .error error)
    (inputs : List Input) :
    run surroundings arguments inputs = endEarly surroundings.host 2 ""
      (Page.general.usage ++ shellMessage ("error: " ++ error.message)) := by
  rw [run, start, hinvocation]
  dsimp only
  rw [startInvocation, h]

theorem finalState?_of_not_configured {error : ConfigurationError}
    (h : configure surroundings invocation.flags = .error error)
    (inputs : List Input) : finalState? surroundings arguments inputs = none := by
  simp only [finalState?, hinvocation, h]

end

/-- What a run leaves behind is what its shell was left with. -/
theorem run_of_finalState? {surroundings : Surroundings} {arguments : List String}
    {inputs : List Input} {state : State}
    (h : finalState? surroundings arguments inputs = some state) :
    (run surroundings arguments inputs).terminal = state.terminal ∧
    (run surroundings arguments inputs).host = state.host := by
  cases hinvocation : Invocation.ofArguments arguments with
  | error e =>
    rw [finalState?, hinvocation] at h
    contradiction
  | ok invocation =>
    cases hsettings : configure surroundings invocation.flags with
    | error e =>
      rw [finalState?_of_not_configured hinvocation hsettings] at h
      contradiction
    | ok settings =>
      rw [finalState?_of_configure hinvocation hsettings] at h
      rw [run_of_configure hinvocation hsettings, ← Option.some.inj h]
      cases invocation.task <;> exact ⟨rfl, rfl⟩

end Program

end LineShell
