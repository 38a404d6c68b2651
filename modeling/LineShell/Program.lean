import LineShell.Conversation
import LineShell.Invocation
import LineShell.Settings

/-!
# The program

From arguments and an environment to an exit code. The arguments say whether a text is executed or a
conversation is held. The settings come from the environment, and those that a flag gives from the
flag; the environment must be in order even where a flag takes its place.
-/

namespace LineShell

/-- What the program finds when it starts. -/
structure Surroundings where
  environment : Environment
  /-- The home directory of the user that the program runs as, as the system tells it. -/
  userHome : String := "/"
  host : Host
  launcher : Launcher
  /-- Whether the input comes from a terminal. -/
  isTerminal : Bool := false

/-- What is left when the program has ended. -/
structure Outcome where
  ending : Ending
  terminal : Terminal
  host : Host
  /-- How often the prompt was shown. -/
  prompts : Nat := 0
  /-- What the line editor was answered. -/
  answers : List (Option String) := []
  /-- What the line editor was told at the start. -/
  settings : List EditorSetting := []

namespace Program

/-- The log level that a flag or else the settings give. An empty flag gives none. -/
def logLevel (flags : Invocation.Flags) (settings : Settings) :
    Except ConfigurationError LogLevel :=
  match flags.logLevel with
  | none | some "" => .ok settings.logLevel
  | some text => LogLevel.read text

/-- The settings for an invocation. -/
def configure (surroundings : Surroundings) (flags : Invocation.Flags) :
    Except ConfigurationError Settings := do
  let settings ← Settings.ofEnvironment surroundings.environment surroundings.userHome
  let logLevel ← logLevel flags settings
  return { settings with logLevel, prompt := flags.prompt.getD settings.prompt }

/-- The state that the shell starts in. -/
def initialState (surroundings : Surroundings) (settings : Settings) : State :=
  { session := settings.session surroundings.host.cwd.path, host := surroundings.host }

/-- The shell that the program runs. -/
def shell (surroundings : Surroundings) : Shell :=
  { launcher := surroundings.launcher }

/-- Execute a text. The exit code is the status that the shell was asked to stop with, or else that
of the last command. -/
def execText (shell : Shell) (state : State) (text : String) : Ending × State :=
  match shell.exec text state with
  | .error fault state => (.failed fault, state)
  | .ok result state => (.exited (state.exitStatus.getD result.exitCode), state)

/-- End with a code before a shell was started. -/
def endEarly (host : Host) (code : Int) (stdout stderr : String) : Outcome :=
  { ending := .exited code, terminal := { stdout, stderr }, host }

/-- The program once it has started. -/
inductive Started where
  /-- It has ended already. -/
  | ended (outcome : Outcome)
  /-- It waits at its first prompt. -/
  | conversing (shell : Shell) (conversation : Conversation)

/-- Start an invocation. -/
def startInvocation (surroundings : Surroundings) (invocation : Invocation) : Started :=
  match configure surroundings invocation.flags with
  | .error error =>
    .ended (endEarly surroundings.host 2 ""
      (Page.general.usage ++ shellMessage ("error: " ++ error.message)))
  | .ok settings =>
    let shell := shell surroundings
    let state := initialState surroundings settings
    match invocation.task with
    | .exec text =>
      let (ending, state) := execText shell state text
      .ended { ending, terminal := state.terminal, host := state.host }
    | .converse =>
      .conversing shell (Conversation.start state settings.prompt surroundings.isTerminal)

/-- Start the program. -/
def start (surroundings : Surroundings) (arguments : List String) : Started :=
  match Invocation.ofArguments arguments with
  | .ok invocation => startInvocation surroundings invocation
  | .error (.help page) =>
    .ended (endEarly surroundings.host 0 page.help "")
  | .error (.misuse misuse) =>
    .ended (endEarly surroundings.host 2 "" misuse.report)

/-- What is left of a conversation that has ended. -/
def outcomeOf (ending : Ending) (conversation : Conversation) : Outcome where
  ending
  terminal := conversation.state.terminal
  host := conversation.state.host
  prompts := conversation.prompts
  answers := conversation.answers
  settings := if conversation.editor.isSome then editorSettings else []

/-- Run the program on inputs. -/
def run (surroundings : Surroundings) (arguments : List String) (inputs : List Input) : Outcome :=
  match start surroundings arguments with
  | .ended outcome => outcome
  | .conversing shell conversation =>
    let (ending, conversation) := conversation.run shell inputs
    outcomeOf ending conversation

end Program

end LineShell
