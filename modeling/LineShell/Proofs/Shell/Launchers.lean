import LineShell.Proofs.Shell.Course

/-!
# Shells that differ by their launcher

What programs do is up to the launcher. A shell with another launcher does the same as long as each
program that it launches does the same on the host where it is launched, since nothing else of the
shell has changed. Which programs these are is read off the moments of one of the two runs
(`Moment.Launches`): at a moment where a command begins, a program is launched if the targets can be
prepared and the name leads to it. So the two runs are compared by following one of them through its
moments (`Shell.exec_launchingBy`), and nothing has to be known of the programs that the other one
would launch once they differ.
-/

namespace LineShell

/-- A shell with another launcher. -/
def Shell.launchingBy (shell : Shell) (launcher : Launcher) : Shell :=
  { shell with launcher }

/-- Whether a program is launched at a moment, on a host. -/
inductive Moment.Launches (shell : Shell) : Moment → Host → Launch → Prop
  | command {levels : Nat} {command : Command} {state : State} {path : String} :
      (command.plan.prepare state.session.cwd state.host).1 = .ok () →
      shell.resolve (Shell.prepared command.plan state) command.name = .external path →
      Launches shell ⟨.command levels command, state⟩ (Shell.prepared command.plan state).host
        (Shell.launchFor command path state.session.cwd)

/-- Whether the programs that are launched from a moment on do the same with another launcher. -/
def Shell.RunsAlike (shell : Shell) (other : Launcher) (moment : Moment) : Prop :=
  ∀ next host launch, shell.Leads moment next → next.Launches shell host launch →
    other host launch = shell.launcher host launch

/-- Whether a moment can come up where a text is one command, which is no command of the shell. -/
def Moment.IsOfCommand (text : String) (command : Command) (start : State) (moment : Moment) :
    Prop :=
  match moment.activity with
  | .texts texts | .lines _ texts => texts = [] ∨ texts = [text] ∧ moment.state = start
  | .command _ other => other = command ∧ moment.state = start
  | .procedure _ _ _ => False

variable {shell : Shell} {other : Launcher} {levels : Nat} {moment next : Moment}

theorem Moment.IsOfCommand.of_follows {text : String} {command : Command} {start : State}
    (h : moment.IsOfCommand text command start) (hlines : Shell.lines text = [text])
    (hparse : Command.parse? text = some command)
    (hfind : shell.commands.find? command.name = none) (hfollows : shell.Follows moment next) :
    next.IsOfCommand text command start := by
  cases hfollows with
  | text =>
    rcases h with h | ⟨h, rfl⟩
    · contradiction
    · rw [(List.cons.inj h).1, hlines]
      exact Or.inr ⟨rfl, rfl⟩
  | nextText =>
    rcases h with h | ⟨h, -⟩
    · contradiction
    · exact Or.inl (List.cons.inj h).2
  | blank _ hnone =>
    rcases h with h | ⟨h, -⟩
    · contradiction
    · exact Or.inl (List.cons.inj h).2
  | line _ hsome =>
    rcases h with h | ⟨h, rfl⟩
    · contradiction
    · rw [(List.cons.inj h).1, hparse] at hsome
      exact ⟨(Option.some.inj hsome).symm, rfl⟩
  | nextLine =>
    rcases h with h | ⟨h, -⟩
    · contradiction
    · exact Or.inl (List.cons.inj h).2
  | call _ hcall =>
    rw [h.1, hfind] at hcall
    contradiction
  | requestExit | nested | answered | session | resolve | stat | chdir => contradiction

namespace Shell

namespace RunsAlike

theorem of_follows (h : shell.RunsAlike other moment) (hfollows : shell.Follows moment next) :
    shell.RunsAlike other next :=
  fun last host launch hleads ↦ h last host launch (.head hfollows hleads)

/-- A text that is one command, which is no command of the shell, launches at most one program. -/
theorem of_command {text : String} {command : Command} {start : State}
    (hlines : lines text = [text]) (hparse : Command.parse? text = some command)
    (hfind : shell.commands.find? command.name = none)
    (hlaunch : ∀ path, shell.resolve (prepared command.plan start) command.name = .external path →
      other (prepared command.plan start).host (launchFor command path start.session.cwd)
        = shell.launcher (prepared command.plan start).host
          (launchFor command path start.session.cwd)) :
    shell.RunsAlike other ⟨.texts [text], start⟩ := by
  have hinvariant : ∀ moment, shell.Leads ⟨.texts [text], start⟩ moment →
      moment.IsOfCommand text command start := by
    intro moment hleads
    induction hleads with
    | refl => exact Or.inr ⟨rfl, rfl⟩
    | tail _ hfollows ih => exact ih.of_follows hlines hparse hfind hfollows
  intro last host launch hleads hlaunches
  have hlast := hinvariant last hleads
  cases hlaunches with
  | command _ hresolve =>
    obtain ⟨rfl, rfl⟩ := hlast
    exact hlaunch _ hresolve

end RunsAlike

/-! ## Executions -/

section

variable (hnested : ∀ name text next state,
  shell.RunsAlike other ⟨.procedure levels name (.exec text next), state⟩ →
  (shell.launchingBy other).execWithin levels text state = shell.execWithin levels text state)
include hnested

/-- Running a procedure, by induction on it. -/
theorem runProcedure_launchingBy {name : String} {procedure : Procedure} {state : State}
    (h : shell.RunsAlike other ⟨.procedure levels name procedure, state⟩) :
    (shell.launchingBy other).runProcedure ((shell.launchingBy other).execWithin levels) name
        procedure state
      = shell.runProcedure (shell.execWithin levels) name procedure state := by
  induction procedure generalizing state with
  | reply | refuse | crash => rw [runProcedure, runProcedure]
  | requestExit code next ih =>
    rw [runProcedure, runProcedure]
    exact ih (h.of_follows .requestExit)
  | exec text next ih =>
    have hattempt : Action.attempt ((shell.launchingBy other).execWithin levels text) state
        = Action.attempt (shell.execWithin levels text) state := by
      rw [Action.attempt, Action.attempt, hnested name text next state h]
    rw [runProcedure, runProcedure, Action.bind_apply, Action.bind_apply, hattempt]
    cases hrun : Action.attempt (shell.execWithin levels text) state with
    | ok answer after => exact ih answer (h.of_follows (.answered hrun))
    | error fault after => dsimp only
  | session next ih =>
    rw [runProcedure, runProcedure, Action.get_bind_apply, Action.get_bind_apply]
    exact ih state.session (h.of_follows .session)
  | resolve name next ih =>
    rw [runProcedure, runProcedure, Action.get_bind_apply, Action.get_bind_apply]
    exact ih _ (h.of_follows .resolve)
  | stat path next ih =>
    rw [runProcedure, runProcedure, Action.get_bind_apply, Action.get_bind_apply]
    exact ih _ (h.of_follows .stat)
  | chdir path next ih =>
    rw [runProcedure, runProcedure, Action.bind_apply, Action.bind_apply]
    cases hrun : Action.chdir path state with
    | ok answer after => exact ih answer (h.of_follows (.chdir hrun))
    | error fault after => dsimp only

theorem perform_launchingBy {command : Command} {state : State}
    (h : shell.RunsAlike other ⟨.command levels command, state⟩)
    (hprepare : (command.plan.prepare state.session.cwd state.host).1 = .ok ()) :
    (shell.launchingBy other).perform ((shell.launchingBy other).execWithin levels) command
        state.session.cwd (prepared command.plan state)
      = shell.perform (shell.execWithin levels) command state.session.cwd
        (prepared command.plan state) := by
  cases hmeans : shell.resolve (prepared command.plan state) command.name with
  | builtin =>
    obtain ⟨handler, hfind⟩ := shell.resolve_eq_builtin_iff.mp hmeans
    have hfind' : (shell.launchingBy other).commands.find? command.name = some handler := hfind
    have hcall := runProcedure_launchingBy hnested (h.of_follows (.call hprepare hfind))
    simp only [perform, hfind, hfind']
    rw [record_bind_apply, record_bind_apply, Action.bind_apply, Action.bind_apply, hcall]
  | external path =>
    have hmeans' : (shell.launchingBy other).resolve (prepared command.plan state) command.name
        = .external path := hmeans
    have hlaunch : (shell.launchingBy other).launcher (prepared command.plan state).host
          (launchFor command path state.session.cwd)
        = shell.launcher (prepared command.plan state).host
          (launchFor command path state.session.cwd) :=
      h _ _ _ .refl (.command hprepare hmeans)
    rw [perform_of_external _ hmeans, perform_of_external _ hmeans', hlaunch]
  | notFound =>
    have hmeans' : (shell.launchingBy other).resolve (prepared command.plan state) command.name
        = .notFound := hmeans
    rw [perform_of_notFound _ hmeans, perform_of_notFound _ hmeans']

theorem dispatchWith_launchingBy {command : Command} {state : State}
    (h : shell.RunsAlike other ⟨.command levels command, state⟩) :
    (shell.launchingBy other).dispatchWith ((shell.launchingBy other).execWithin levels) command
        state
      = shell.dispatchWith (shell.execWithin levels) command state := by
  cases hprepare : (command.plan.prepare state.session.cwd state.host).1 with
  | ok =>
    rw [dispatchWith_apply_of_prepared _ _ _ hprepare,
      dispatchWith_apply_of_prepared _ _ _ hprepare, Action.bind_apply, Action.bind_apply,
      perform_launchingBy hnested h hprepare]
  | error e =>
    -- The command does not run, so neither launcher is asked.
    cases e with
    | hasNul => rw [dispatchWith_apply_of_hasNul hprepare, dispatchWith_apply_of_hasNul hprepare]
    | refused path reason =>
      rw [dispatchWith_apply_of_refused hprepare, dispatchWith_apply_of_refused hprepare]

/-- Executing lines, by induction on the lines. -/
theorem execLines_launchingBy {texts : List String} {last : CommandResult} {state : State}
    (h : shell.RunsAlike other ⟨.lines levels texts, state⟩) :
    execLines ((shell.launchingBy other).dispatchWith
        ((shell.launchingBy other).execWithin levels)) last texts state
      = execLines (shell.dispatchWith (shell.execWithin levels)) last texts state := by
  induction texts generalizing last state with
  | nil => rw [execLines, execLines]
  | cons text rest ih =>
    rw [execLines_cons_apply, execLines_cons_apply]
    cases hexit : state.exitStatus with
    | some code => rw [Option.isSome_some, if_pos rfl, if_pos rfl]
    | none =>
      rw [Option.isSome_none, if_neg Bool.false_ne_true, if_neg Bool.false_ne_true]
      cases hparse : Command.parse? text with
      | none =>
        dsimp only
        exact ih (h.of_follows (.blank hexit hparse))
      | some command =>
        dsimp only
        rw [dispatchWith_launchingBy hnested (h.of_follows (.line hexit hparse))]
        cases hdispatch : shell.dispatchWith (shell.execWithin levels) command state with
        | ok result after => exact ih (h.of_follows (.nextLine hexit hparse hdispatch))
        | error fault after => dsimp only

end

/-- Executing a text one level deeper, by induction on the levels that are left. -/
theorem execWithin_launchingBy {name text : String}
    {next : Except Fault CommandResult → Procedure} {state : State}
    (h : shell.RunsAlike other ⟨.procedure levels name (.exec text next), state⟩) :
    (shell.launchingBy other).execWithin levels text state
      = shell.execWithin levels text state := by
  induction levels generalizing name text next state with
  | zero => rfl
  | succ levels ih =>
    exact execLines_launchingBy (fun _ _ _ _ h ↦ ih h) (h.of_follows .nested)

/-- **A shell that runs alike does the same.** -/
theorem exec_launchingBy {text : String} {state : State}
    (h : shell.RunsAlike other ⟨.texts [text], state⟩) :
    (shell.launchingBy other).exec text state = shell.exec text state :=
  execLines_launchingBy (fun _ _ _ _ h ↦ execWithin_launchingBy h) (h.of_follows .text)

end Shell

end LineShell
