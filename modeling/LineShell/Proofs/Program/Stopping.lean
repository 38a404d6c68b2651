import LineShell.Proofs.Conversation.Listings
import LineShell.Proofs.Program.Running
import LineShell.Proofs.Shell.Statuses
import LineShell.Proofs.Shell.Stopping

/-!
# Exit codes of the program

A number that the user gives to `exit` becomes the exit code of the program: what is left of it
modulo 256. This is so in both ways to run the program, in the middle of a text that is executed and
at any prompt of a conversation, and what comes after it is not looked at (`Program.StopsAt`).
-/

namespace LineShell

namespace Shell

/-- Commands whose targets cannot be prepared are not called. -/
theorem not_called_of_not_prepared (shell : Shell) {command : Command} {state : State}
    (h : (command.plan.prepare state.session.cwd state.host).1 ≠ .ok ()) :
    ((shell.dispatch command).finalState state).exitStatus = state.exitStatus ∧
    ((shell.dispatch command).finalState state).journal = state.journal := by
  cases hprepare : (command.plan.prepare state.session.cwd state.host).1 with
  | ok => exact absurd hprepare h
  | error e =>
    rw [Action.finalState, dispatch]
    cases e with
    | hasNul =>
      rw [dispatchWith_apply_of_hasNul hprepare]
      exact ⟨rfl, rfl⟩
    | refused path reason =>
      rw [dispatchWith_apply_of_refused hprepare]
      exact ⟨rfl, rfl⟩

end Shell

namespace Conversation

theorem Reaches.exitStatus_eq {shell : Shell} {first current : Conversation} {inputs : List Input}
    (h : first.Reaches shell inputs current) (hfirst : first.state.exitStatus = none) :
    current.state.exitStatus = none := by
  cases h with
  | nil => exact hfirst
  | snoc _ _ hrunning => exact hrunning

end Conversation

namespace Program

/-! ## Both ways to run the program -/

/-- Whether a line ends the program with a code wherever it is executed, prints nothing and lets
nothing happen after it. -/
structure StopsAt (line : String) (code : Int) : Prop where
  /-- The line stands in a text, and what stands before it lets the shell go on. -/
  exec : ∀ {surroundings arguments text flags settings before rest last state},
    Invocation.ofArguments arguments = .ok ⟨.exec text, flags⟩ →
    configure surroundings flags = .ok settings →
    Shell.lines text = before ++ line :: rest →
    Shell.execLines (shell surroundings).dispatch {} before (initialState surroundings settings)
      = .ok last state →
    state.exitStatus = none →
    ∀ inputs, run surroundings arguments inputs
      = { ending := .exited code, terminal := state.terminal, host := state.host }
  /-- The line is given at a prompt. -/
  converse : ∀ {surroundings arguments shell first before current},
    start surroundings arguments = .conversing shell first → first.Reaches shell before current →
    ∀ rest, run surroundings arguments (before ++ .line line :: rest)
      = outcomeOf (.exited code) current

theorem stopsAt_exitLine {number : Int}
    (hnumber : (toString number.natAbs).length ≤ Text.maxDigits) :
    StopsAt (Shell.exitLine number) (number % 256) where
  exec := by
    intro surroundings arguments text flags settings before rest last state hinvocation hsettings
      htext hbefore hrunning inputs
    have hexec := Shell.exec_of_exitLine rfl hnumber htext hbefore hrunning
    rw [run_of_configure hinvocation hsettings, carryOut, execText, hexec]
    rfl
  converse := by
    intro surroundings arguments shell first before current hstart hreaches rest
    obtain ⟨rfl, settings, rfl⟩ := exists_eq_of_start hstart
    have hfind : (Program.shell surroundings).commands.find? "exit" = some Builtin.exit := rfl
    have hexec := Shell.exec_exitLine hfind hnumber (hreaches.exitStatus_eq rfl)
    rw [run, hstart]
    dsimp only
    rw [hreaches.run_append, Conversation.run, Conversation.take, Conversation.takeLine, hexec]
    rfl

/-! ## The law -/

/-- **Asking to stop.** For every integer of at most 4300 decimal digits there is one code from 0 to
255 that differs from it by a multiple of 256. While a shell is running, `exit` and the integer ask
it to stop with that code, which changes nothing else but what is written down, and the program ends
with the code wherever the line stands. For an argument that is no integer `exit` asks to stop with
2, and its message goes where the standard output goes (`Shell.RefusesStatus`); the command is not
called at all if its targets cannot be prepared.

Hence in a shell that knows the commands of every shell and no others, the status at every moment
is missing or a number from 0 to 255, and once it is there no execution changes anything. -/
theorem exit_ends_program :
    (∀ number : Int, (toString number.natAbs).length ≤ 4300 → ∃ code : Int,
      (0 ≤ code ∧ code < 256 ∧ (256 : Int) ∣ number - code) ∧
      (∀ (shell : Shell) (state : State), shell.commands.find? "exit" = some Builtin.exit →
        state.exitStatus = none →
        shell.exec ("exit " ++ toString number) state = .ok {} { state with
          exitStatus := some code
          journal := state.journal ++ [.called "exit" [toString number]] }) ∧
      StopsAt ("exit " ++ toString number) code) ∧
    (∀ (shell : Shell) (state : State) (status : String) (rest : List String)
        (plan : Redirection.Plan),
      shell.commands.find? "exit" = some Builtin.exit → Text.integer? status = none →
      ((plan.prepare state.session.cwd state.host).1 = .ok () →
        shell.RefusesStatus status ⟨"exit", status :: rest, plan⟩ state) ∧
      ((plan.prepare state.session.cwd state.host).1 ≠ .ok () →
        ((shell.dispatch ⟨"exit", status :: rest, plan⟩).finalState state).exitStatus
          = state.exitStatus ∧
        ((shell.dispatch ⟨"exit", status :: rest, plan⟩).finalState state).journal
          = state.journal)) ∧
    ∀ (launcher : Launcher) (texts : List String) (start : State) (moment : Moment),
      start.exitStatus = none →
      Shell.Leads { launcher } ⟨.texts texts, start⟩ moment →
      ∀ code, moment.state.exitStatus = some code → (0 ≤ code ∧ code < 256) ∧
        ∀ text, Shell.exec { launcher } text moment.state = .ok {} moment.state := by
  refine ⟨fun number hnumber ↦ ⟨number % 256, ?_, ?_, ?_⟩, ?_, ?_⟩
  · omega
  · exact fun shell state hfind hrunning ↦ Shell.exec_exitLine hfind hnumber hrunning
  · exact stopsAt_exitLine hnumber
  · exact fun shell state status rest plan hfind hstatus ↦
      ⟨Shell.refusesStatus hfind hstatus rest, fun h ↦ shell.not_called_of_not_prepared h⟩
  · intro launcher texts start moment hstart hleads code hcode
    refine ⟨Shell.Leads.stops (Shell.stopsWith_standard launcher) hstart hleads code hcode, ?_⟩
    intro text
    exact Shell.exec_of_isSome _ text (by rw [hcode]; rfl)

theorem exit_ends_program_beyond_byte :
    let surroundings : Surroundings := {
      environment := [("HOME", "/")]
      host := {}
      launcher := fun host _ ↦ (.ok {}, host) }
    let start : State := { session := { cwd := "/", home := "/" } }
    let shell := shell surroundings
    run surroundings ["exec", "exit -513"] []
      = { ending := .exited 255, terminal := {}, host := {} } ∧
    run surroundings ["shell"] [.interrupt, .line "exit 1024", .line "exit 1"] =
      { ending := .exited 0, terminal := { stdout := "$ \n$ " }, host := {}, prompts := 2 } ∧
    Text.integer? "0x10" = none ∧
    ((shell.dispatch ⟨"exit", ["0x10"], {}⟩).finalState start).terminal.stdout
      = "exit: 0x10: numeric argument required\n" := by
  intro surroundings start shell
  obtain ⟨hintegers, hothers, -⟩ := exit_ends_program
  refine ⟨?_, ?_, by decide +kernel, ?_⟩
  · obtain ⟨code, ⟨hlower, hupper, hdvd⟩, -, hstops⟩ := hintegers (-513) (by decide +kernel)
    obtain rfl : code = 255 := by omega
    have hline : "exit " ++ toString (-513 : Int) = "exit -513" := by decide +kernel
    rw [hline] at hstops
    have hinvocation : Invocation.ofArguments ["exec", "exit -513"]
        = .ok ⟨.exec "exit -513", {}⟩ := rfl
    have hsettings : configure surroundings {}
        = .ok ⟨"", "/", "$ ", .warning, "/"⟩ := by
      decide +kernel
    have htext : Shell.lines "exit -513" = [] ++ "exit -513" :: [] := by decide +kernel
    exact hstops.exec hinvocation hsettings htext rfl rfl []
  · obtain ⟨code, ⟨hlower, hupper, hdvd⟩, -, hstops⟩ := hintegers 1024 (by decide +kernel)
    obtain rfl : code = 0 := by omega
    have hline : "exit " ++ toString (1024 : Int) = "exit 1024" := by decide +kernel
    rw [hline] at hstops
    let first := Conversation.start
      (initialState surroundings ⟨"", "/", "$ ", .warning, "/"⟩) "$ " false
    have hstart : Program.start surroundings ["shell"] = .conversing shell first :=
      start_shell_eq ⟨"", "/", "$ ", .warning, "/"⟩ (by decide +kernel)
    have hreaches : first.Reaches shell [.interrupt] (first.take shell .interrupt).2 :=
      Conversation.Reaches.nil.take (by decide +kernel) (by decide +kernel)
    exact hstops.converse hstart hreaches [.line "exit 1"]
  · exact ((hothers shell start "0x10" [] {} rfl (by decide +kernel)).1 rfl).shows rfl

end Program

end LineShell
