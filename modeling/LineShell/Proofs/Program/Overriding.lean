import LineShell.Machine
import LineShell.Proofs.Conversation.Listings
import LineShell.Proofs.Program.Configuring
import LineShell.Proofs.Program.Running
import LineShell.Proofs.Shell.Launchers

/-!
# Flags in place of the environment

The program is run twice, with the same arguments and inputs, in environments that differ in one
variable. What can make a difference then is what the settings are, and what launched programs do,
which are started in the environment as it is. If both come to the same, so do the runs
(`Program.run_congr`): a shell starts in the same state, and it goes through the same moments with
either launcher.

A flag settles the first of the two. A prompt that a flag gives does so in all environments. A log
level does so in environments that do not name a wrong one; they are asked first, and the program
ends before the flag is looked at if they do (`Program.environment_shows_through_flags`).
-/

namespace LineShell

/-! ## Conversations -/

namespace Conversation

variable {shell : Shell} {other : Launcher} {conversation next : Conversation} {input : Input}
  {inputs : List Input}

/-- A conversation goes through what comes up after one of its inputs was taken. -/
theorem Reaches.cons {current : Conversation} (h : next.Reaches shell inputs current)
    (htake : conversation.take shell input = (.ok (), next))
    (hrunning : next.state.exitStatus = none) :
    conversation.Reaches shell (input :: inputs) current := by
  induction h with
  | nil => exact Reaches.nil.snoc htake hrunning
  | snoc _ htake' hrunning' ih => exact ih.snoc htake' hrunning'

/-- Whether the programs that lines launch in the course of a conversation do the same with another
launcher. -/
def RunsAlike (shell : Shell) (other : Launcher) (conversation : Conversation)
    (inputs : List Input) : Prop :=
  ∀ before text rest current, inputs = before ++ .line text :: rest →
    conversation.Reaches shell before current →
    shell.RunsAlike other ⟨.texts [text], current.state⟩

/-- Only lines launch programs. -/
theorem RunsAlike.of_no_line (shell : Shell) (other : Launcher) (conversation : Conversation)
    (h : ∀ text, Input.line text ∉ inputs) : RunsAlike shell other conversation inputs := by
  rintro before text rest current rfl -
  exact absurd (List.mem_append_right before List.mem_cons_self) (h text)

theorem take_launchingBy (h : RunsAlike shell other conversation (input :: inputs)) :
    conversation.take (shell.launchingBy other) input = conversation.take shell input := by
  cases input with
  | line text =>
    rw [take, take, takeLine, takeLine, Shell.exec_launchingBy (h [] text inputs _ rfl .nil)]
  | interrupt => rfl
  | press press =>
    -- The completion key asks the shell for its commands only.
    have hcomplete : (shell.launchingBy other).complete = shell.complete := rfl
    simp only [take, takePress, LineEditor.press, hcomplete]

/-- Conversations that run alike are the same, by induction on the inputs. -/
theorem run_launchingBy (h : RunsAlike shell other conversation inputs) :
    conversation.run (shell.launchingBy other) inputs = conversation.run shell inputs := by
  induction inputs generalizing conversation with
  | nil => rfl
  | cons input rest ih =>
    rw [run, run, take_launchingBy h]
    cases htake : conversation.take shell input with
    | mk outcome next =>
      cases outcome with
      | error fault => rfl
      | ok =>
        dsimp only
        cases hstatus : next.state.exitStatus with
        | some code => rfl
        | none =>
          refine ih fun before text behind current hinputs hreaches ↦ ?_
          exact h (input :: before) text behind current (by rw [hinputs]; rfl)
            (hreaches.cons htake hstatus)

end Conversation

namespace Program

/-! ## Runs in two environments -/

/-- Whether the programs that are launched while a task is carried out do the same with another
launcher. -/
def RunsAlike (surroundings : Surroundings) (other : Launcher) (settings : Settings)
    (inputs : List Input) : Invocation.Task → Prop
  | .exec text =>
    (shell surroundings).RunsAlike other ⟨.texts [text], initialState surroundings settings⟩
  | .converse =>
    (Conversation.start (initialState surroundings settings) settings.prompt
      surroundings.isTerminal).RunsAlike (shell surroundings) other inputs

/-- Whether each program that a run launches does the same in the second place, on the host where it
is launched. -/
def LaunchesAlike (first second : Surroundings) (arguments : List String) (inputs : List Input) :
    Prop :=
  ∀ invocation settings, Invocation.ofArguments arguments = .ok invocation →
    configure first invocation.flags = .ok settings →
    RunsAlike first second.launcher settings inputs invocation.task

section

variable {name : String} {first second : Surroundings} {arguments : List String}
  {invocation : Invocation} {inputs : List Input} (h : AgreeApartFrom name first second)
include h

theorem carryOut_congr {settings : Settings} {task : Invocation.Task}
    (halike : RunsAlike first second.launcher settings inputs task) :
    carryOut second settings inputs task = carryOut first settings inputs task := by
  have hinitial : initialState second settings = initialState first settings := by
    rw [initialState, initialState, h.host]
  have hshell : shell second = (shell first).launchingBy second.launcher := rfl
  cases task with
  | exec text =>
    rw [carryOut, carryOut, hinitial, execText, execText, hshell, Shell.exec_launchingBy halike]
  | converse =>
    rw [carryOut, carryOut, hinitial, h.isTerminal, hshell, Conversation.run_launchingBy halike]

/-- A run is the same if the settings are, up to the log level. -/
theorem run_congr (hinvocation : Invocation.ofArguments arguments = .ok invocation)
    (halike : LaunchesAlike first second arguments inputs)
    (hconfigure : ConfigureAlike first second invocation.flags) :
    run second arguments inputs = run first arguments inputs ∧
    finalState? second arguments inputs = finalState? first arguments inputs := by
  rcases hconfigure with ⟨error, hfirst, hsecond⟩ | ⟨settings, level, hfirst, hsecond⟩
  · rw [run_of_not_configured hinvocation hfirst, run_of_not_configured hinvocation hsecond,
      finalState?_of_not_configured hinvocation hfirst,
      finalState?_of_not_configured hinvocation hsecond, h.host]
    exact ⟨rfl, rfl⟩
  · -- The level is no part of what the shell starts with.
    have hlevel : carryOut second { settings with logLevel := level } inputs invocation.task
        = carryOut second settings inputs invocation.task := by
      cases invocation.task <;> rfl
    rw [run_of_configure hinvocation hfirst, run_of_configure hinvocation hsecond,
      finalState?_of_configure hinvocation hfirst, finalState?_of_configure hinvocation hsecond,
      hlevel, carryOut_congr h (halike invocation settings hinvocation hfirst)]
    exact ⟨rfl, rfl⟩

end

/-! ## The law -/

/-- **Flags in place of the environment.** The value that counts for a setting is the last one that
the arguments give: one that is given after the word for the task takes the place of one that is
given before it, which counts if there is no other.

Let two environments differ in the log level only, let both levels be valid or both be wrong, and
let each program that the first run launches do the same in the second environment. Then the two runs
end alike, show the same on the standard output, leave the same host behind, and their shells are
left in the same state, with the same journal. If the levels are valid and so is the one that counts
among the flags, nothing at all differs, and that level is the one in the settings of both.

Where a flag gives the prompt and the environments differ in the prompt only, nothing differs
either, be their log level valid or not. -/
theorem flags_override_environment :
    (∀ (arguments : List String) (invocation : Invocation),
      Invocation.ofArguments arguments = .ok invocation →
      ∃ items, Invocation.items arguments = .ok items ∧ ∀ setting,
        invocation.flags.value? setting = (Invocation.given setting items).getLast? ∧
        ∀ before word after, items = before ++ .operand word :: after →
          invocation.flags.value? setting =
            (Invocation.given setting after).getLast?.or
              (Invocation.given setting before).getLast?) ∧
    (∀ (first second : Surroundings) (arguments : List String) (invocation : Invocation)
        (inputs : List Input),
      AgreeApartFrom "MINISH_LOG_LEVEL" first second →
      (first.environment.HasValidLevel ↔ second.environment.HasValidLevel) →
      Invocation.ofArguments arguments = .ok invocation →
      LaunchesAlike first second arguments inputs →
      (run second arguments inputs).withoutErrors = (run first arguments inputs).withoutErrors ∧
      finalState? second arguments inputs = finalState? first arguments inputs ∧
      ∀ text level, invocation.flags.logLevel = some text → LogLevel.ofText? text = some level →
        first.environment.HasValidLevel →
        run second arguments inputs = run first arguments inputs ∧
        ∃ settings, settings.logLevel = level ∧
          configure first invocation.flags = .ok settings ∧
          configure second invocation.flags = .ok settings) ∧
    ∀ (first second : Surroundings) (arguments : List String) (invocation : Invocation)
        (inputs : List Input) (prompt : String),
      AgreeApartFrom "MINISH_PROMPT" first second →
      Invocation.ofArguments arguments = .ok invocation →
      invocation.flags.prompt = some prompt →
      LaunchesAlike first second arguments inputs →
      run second arguments inputs = run first arguments inputs ∧
      finalState? second arguments inputs = finalState? first arguments inputs ∧
      configure second invocation.flags
        = configure first invocation.flags ∧
      ∀ settings, configure first invocation.flags = .ok settings →
        settings.prompt = prompt := by
  refine ⟨?_, ?_, ?_⟩
  · intro arguments invocation hinvocation
    obtain ⟨items, hitems, hflags⟩ := Invocation.exists_items_of_ofArguments hinvocation
    refine ⟨items, hitems, fun setting ↦ ⟨hflags setting, ?_⟩⟩
    rintro before word after rfl
    rw [hflags, Invocation.given_append, List.getLast?_append]
    rfl
  · intro first second arguments invocation inputs h hlevels hinvocation halike
    by_cases hvalid : first.environment.HasValidLevel
    · obtain ⟨hrun, hfinal⟩ := run_congr h hinvocation halike
        (configureAlike_of_valid h hvalid (hlevels.mp hvalid) invocation.flags)
      rw [hrun]
      refine ⟨rfl, hfinal, fun text level hflag hlevel _ ↦ ⟨rfl, ?_⟩⟩
      exact configure_of_logLevel h hvalid (hlevels.mp hvalid) hflag hlevel
    · have hinvalid := mt hlevels.mpr hvalid
      obtain ⟨error, hfirst⟩ := exists_configure_of_not_valid hvalid invocation.flags
      obtain ⟨error', hsecond⟩ := exists_configure_of_not_valid hinvalid invocation.flags
      rw [run_of_not_configured hinvocation hfirst, run_of_not_configured hinvocation hsecond,
        finalState?_of_not_configured hinvocation hfirst,
        finalState?_of_not_configured hinvocation hsecond, withoutErrors_endEarly,
        withoutErrors_endEarly, h.host]
      exact ⟨rfl, rfl, fun _ _ _ _ hself ↦ absurd hself hvalid⟩
  · intro first second arguments invocation inputs prompt h hinvocation hflag halike
    have hsame := configure_of_prompt h hflag
    obtain ⟨hrun, hfinal⟩ := run_congr h hinvocation halike (.of_eq hsame)
    exact ⟨hrun, hfinal, hsame.symm, fun settings ↦ prompt_of_configure hflag⟩

theorem flags_override_environment_on_machine :
    let found (name value : String) : Surroundings :=
      let environment : Environment := [("PATH", "/bin"), (name, value)]
      { environment
        host := { tree := ⟨[(["bin"], .directory), (["bin", "false"], .program "false")]⟩ }
        launcher := Machine.launcher environment }
    let arguments := ["--log-level", "chatty", "exec", "--log-level", "error", "false"]
    let conversing := ["--prompt", "% ", "shell", "--prompt", "> "]
    (∃ items, Invocation.items arguments = .ok items ∧
      Invocation.given .logLevel items = ["chatty", "error"] ∧
      some "error" = (Invocation.given .logLevel items).getLast?) ∧
    run (found "MINISH_LOG_LEVEL" "debug") arguments []
      = run (found "MINISH_LOG_LEVEL" "info") arguments [] ∧
    (run (found "MINISH_LOG_LEVEL" "info") arguments []).ending = .exited 1 ∧
    (finalState? (found "MINISH_LOG_LEVEL" "info") arguments []).map State.launches
      = some [⟨"/bin/false", ["false"], .inheritAll, "/"⟩] ∧
    run (found "MINISH_PROMPT" "second> ") conversing [.interrupt]
      = run (found "MINISH_PROMPT" "first> ") conversing [.interrupt] ∧
    (run (found "MINISH_PROMPT" "first> ") conversing [.interrupt]).terminal.stdout
      = "> \n> " := by
  intro found arguments conversing
  obtain ⟨hreads, hlevels, hprompts⟩ := flags_override_environment
  have hinvocation : Invocation.ofArguments arguments
      = .ok ⟨.exec "false", { logLevel := some "error" }⟩ := by
    decide +kernel
  have hconversing : Invocation.ofArguments conversing
      = .ok ⟨.converse, { prompt := some "> " }⟩ := by
    decide +kernel
  refine ⟨?_, ?_, by decide +kernel, by decide +kernel, ?_, by decide +kernel⟩
  · obtain ⟨items, hitems, hflags⟩ := hreads arguments _ hinvocation
    have hgiven : Invocation.items arguments = .ok [.set .logLevel "chatty", .operand "exec",
        .set .logLevel "error", .operand "false"] := by decide +kernel
    obtain rfl := Except.ok.inj (hgiven.symm.trans hitems)
    exact ⟨_, hitems, rfl, (hflags .logLevel).1⟩
  · have hfound : AgreeApartFrom "MINISH_LOG_LEVEL" (found "MINISH_LOG_LEVEL" "info")
        (found "MINISH_LOG_LEVEL" "debug") :=
      ⟨Environment.agreeApartFrom_append [("PATH", "/bin")] _ _ _, rfl, rfl, rfl⟩
    have hvalid : (found "MINISH_LOG_LEVEL" "info").environment.HasValidLevel :=
      .of_setting? (show _ = some "info" by decide +kernel)
        (show _ = some .info by decide +kernel)
    have hvalid' : (found "MINISH_LOG_LEVEL" "debug").environment.HasValidLevel :=
      .of_setting? (show _ = some "debug" by decide +kernel)
        (show _ = some .debug by decide +kernel)
    have halike : LaunchesAlike (found "MINISH_LOG_LEVEL" "info")
        (found "MINISH_LOG_LEVEL" "debug") arguments [] := by
      intro invocation settings hself hsettings
      obtain rfl := Except.ok.inj (hinvocation.symm.trans hself)
      have hconfigure : configure (found "MINISH_LOG_LEVEL" "info")
          { logLevel := some "error" } = .ok ⟨"/bin", "/", "$ ", .error, "/"⟩ := by
        decide +kernel
      obtain rfl := Except.ok.inj (hconfigure.symm.trans hsettings)
      have hparse : Command.parse? "false" = some ⟨"false", [], {}⟩ := by decide +kernel
      refine Shell.RunsAlike.of_command (by decide +kernel) hparse rfl fun path hresolve ↦ ?_
      have hpath : Resolution.external "/bin/false" = .external path :=
        Eq.trans (by decide +kernel) hresolve
      obtain rfl := Resolution.external.inj hpath
      decide +kernel
    obtain ⟨-, -, hsame⟩ := hlevels _ _ arguments _ [] hfound ⟨fun _ ↦ hvalid', fun _ ↦ hvalid⟩
      hinvocation halike
    exact (hsame "error" .error rfl (by decide +kernel) hvalid).1
  · have hfound : AgreeApartFrom "MINISH_PROMPT" (found "MINISH_PROMPT" "first> ")
        (found "MINISH_PROMPT" "second> ") :=
      ⟨Environment.agreeApartFrom_append [("PATH", "/bin")] _ _ _, rfl, rfl, rfl⟩
    have halike : LaunchesAlike (found "MINISH_PROMPT" "first> ")
        (found "MINISH_PROMPT" "second> ") conversing [.interrupt] := by
      intro invocation settings hself _
      obtain rfl := Except.ok.inj (hconversing.symm.trans hself)
      exact .of_no_line _ _ _ (by simp)
    exact (hprompts _ _ conversing _ [.interrupt] "> " hfound hconversing rfl halike).1

/-- A level that the environment names is read although a flag gives one, and programs are launched
in the environment as it is. -/
theorem environment_shows_through_flags :
    let found (level : String) : Surroundings :=
      let environment : Environment := [("PATH", "/bin"), ("MINISH_LOG_LEVEL", level)]
      { environment
        host := { tree := ⟨[(["bin"], .directory), (["bin", "printenv"], .program "printenv")]⟩ }
        launcher := Machine.launcher environment }
    let arguments (text : String) := ["--log-level", "error", "exec", text]
    LogLevel.ofText? "error" = some .error ∧
    (AgreeApartFrom "MINISH_LOG_LEVEL" (found "info") (found "chatty") ∧
      Invocation.ofArguments (arguments "pwd") = .ok ⟨.exec "pwd", { logLevel := some "error" }⟩ ∧
      (run (found "info") (arguments "pwd") []).ending = .exited 0 ∧
      (run (found "chatty") (arguments "pwd") []).ending = .exited 2) ∧
    AgreeApartFrom "MINISH_LOG_LEVEL" (found "info") (found "debug") ∧
    Invocation.ofArguments (arguments "printenv MINISH_LOG_LEVEL")
      = .ok ⟨.exec "printenv MINISH_LOG_LEVEL", { logLevel := some "error" }⟩ ∧
    (run (found "info") (arguments "printenv MINISH_LOG_LEVEL") []).host.childStdout
      = Utf8.encode "info\n" ∧
    (run (found "debug") (arguments "printenv MINISH_LOG_LEVEL") []).host.childStdout
      = Utf8.encode "debug\n" := by
  intro found arguments
  have hfound : ∀ level other, AgreeApartFrom "MINISH_LOG_LEVEL" (found level) (found other) :=
    fun _ _ ↦ ⟨Environment.agreeApartFrom_append [("PATH", "/bin")] _ _ _, rfl, rfl, rfl⟩
  refine ⟨by decide +kernel, ⟨hfound _ _, rfl, by decide +kernel, by decide +kernel⟩, hfound _ _,
    rfl, by decide +kernel, by decide +kernel⟩

end Program

end LineShell
