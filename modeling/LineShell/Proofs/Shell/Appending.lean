import LineShell.Proofs.Shell.Refusing
import LineShell.Proofs.Shell.Showing

/-!
# Targets that are appended to

Preparing a plan does not try the targets that are appended to. A target of that kind that cannot be
opened is therefore no reason to refuse a command (`Shell.dispatch_performs_before_appending`): the
command is performed, and its directory, its status and its exit code stand. The target is found to
be closed only when there is something to append, and the terminal is told then, in the place of
what the stream was sent.

What a command does may open the target before that. If it leaves the file tree alone, and the
path is seen from the same place, it does not (`Redirection.Target.openable_iff_of_tree`).
-/

namespace LineShell

open Redirection (Target Plan)

namespace Redirection

/-- Beside a target that is appended to, at most one target is tried. -/
theorem prepare_of_append {plan : Plan} {stream : Stream} {appended target : Target} {cwd : String}
    {host : Host} {e : TargetError} (happended : plan.target? stream = some appended)
    (happend : appended.mode = .append) (htarget : target ∈ plan.targets)
    (htruncate : target.mode = .truncate) (hwrite : writeTarget target [] cwd host = .error e) :
    plan.prepare cwd host = (.error e, host) := by
  obtain ⟨other, hother⟩ := mem_targets_iff.mp htarget
  rcases plan with ⟨stdout, stderr⟩
  have hsame : stream ≠ other := by
    rintro rfl
    rw [Option.some.inj (hother.symm.trans happended), happend] at htruncate
    contradiction
  cases stream <;> cases other <;> simp only [Plan.target?] at happended hother
  · contradiction
  · subst happended hother
    simp [Plan.prepare, Plan.targets, prepareTargets_cons, happend, htruncate, hwrite]
  · subst happended hother
    simp [Plan.prepare, Plan.targets, prepareTargets_cons, htruncate, hwrite]
  · contradiction

end Redirection

/-! ## What delivering changes -/

/-- What delivering output may change: the terminal, and the contents of files. -/
structure State.Delivers (before after : State) : Prop where
  session_eq : after.session = before.session
  exitStatus_eq : after.exitStatus = before.exitStatus
  journal_eq : after.journal = before.journal
  host_becomes : before.host.Becomes after.host

theorem State.admitsOutput_delivers : State.AdmitsOutput State.Delivers where
  refl _ := ⟨rfl, rfl, rfl, .refl _⟩
  trans h h' := ⟨h'.session_eq.trans h.session_eq, h'.exitStatus_eq.trans h.exitStatus_eq,
    h'.journal_eq.trans h.journal_eq, h.host_becomes.trans h'.host_becomes⟩
  terminal _ _ := ⟨rfl, rfl, rfl, .refl _⟩
  write _ _ h := ⟨rfl, rfl, rfl, h⟩

namespace Shell

section Delivery

variable (performed : Performed) (plan : Plan) (cwd : String)

/-- The host on which the output for a stream is delivered, the standard output coming first. -/
def hostAt (middle : State) : Stream → Host
  | .stdout => middle.host
  | .stderr => ((deliverOutput performed plan cwd .stdout).finalState middle).host

theorem becomes_hostAt (middle : State) (stream : Stream) :
    middle.host.Becomes (hostAt performed plan cwd middle stream) := by
  cases stream with
  | stdout => exact .refl _
  | stderr =>
    exact (State.admitsOutput_delivers.within_deliverOutput performed plan cwd .stdout
      middle).host_becomes

/-- Whether output for a stream comes to a complaint about a target, with the reason why the target
cannot be opened on a host. -/
def ComplainsOf (performed : Performed) (plan : Plan) (cwd : String) (stream : Stream) (host : Host)
    (target : Target) : Prop :=
  ∀ output, performed.output stream = some output → ∃ e,
    host.write target.mode (Path.anchor cwd target.path) [] = .error (.file e) ∧
    complaint performed plan cwd stream host
      = "minish: " ++ (target.path ++ ": " ++ e.reason) ++ "\n"

variable {performed plan cwd} {stream : Stream}

theorem complainsOf_of_not_openable {target : Target} {host : Host}
    (htarget : plan.target? stream = some target)
    (hnul : Path.hasNul (Path.anchor cwd target.path) = false)
    (hclosed : ¬target.Openable cwd host) : ComplainsOf performed plan cwd stream host target := by
  intro output houtput
  obtain ⟨e, hwrite⟩ := Target.exists_write_eq_error hclosed hnul
  refine ⟨e, hwrite [], ?_⟩
  rw [complaint, houtput, htarget]
  dsimp only
  rw [hwrite]
  rfl

end Delivery

/-! ## Commands beside a target that is appended to -/

variable {shell : Shell} {command : Command} {state : State}

/-- Whether a command is stopped at a target to be emptied, with nothing changed but what the
terminal was shown. -/
def StopsAt (shell : Shell) (command : Command) (state : State) (target : Target) : Prop :=
  (Path.hasNul (Path.anchor state.session.cwd target.path) = true ∧
    shell.dispatch command state = .error .hasNul state) ∨
  ∃ e, state.host.write .truncate (Path.anchor state.session.cwd target.path) []
      = .error (.file e) ∧
    let message := "minish: " ++ (target.path ++ ": " ++ e.reason) ++ "\n"
    shell.dispatch command state = .ok { stderr := message, exitCode := 1 }
      { state with
        terminal := { state.terminal with stderr := state.terminal.stderr ++ message } }

/-- Beside a target that is appended to, a closed target stops a command by itself. -/
theorem stopsAt_of_append {stream : Stream} {appended target : Target}
    (happended : command.plan.target? stream = some appended) (happend : appended.mode = .append)
    (htarget : target ∈ command.plan.targets) (htruncate : target.mode = .truncate)
    (hclosed : ¬target.Openable state.session.cwd state.host) :
    shell.StopsAt command state target := by
  cases hwrite : Redirection.writeTarget target [] state.session.cwd state.host with
  | ok host => exact absurd ⟨host, hwrite⟩ hclosed
  | error e =>
    have hprepare := Redirection.prepare_of_append happended happend htarget htruncate hwrite
    have hsame : prepared command.plan state = state := by rw [prepared, hprepare]
    rw [StopsAt, dispatch]
    cases e with
    | hasNul =>
      rw [dispatchWith_apply_of_hasNul (congrArg Prod.fst hprepare), hsame]
      exact Or.inl ⟨Redirection.writeTarget_eq_hasNul_iff.mp hwrite, rfl⟩
    | refused path e =>
      obtain ⟨rfl, hwritten⟩ := Redirection.writeTarget_eq_refused_iff.mp hwrite
      rw [htruncate] at hwritten
      rw [dispatchWith_apply_of_refused (congrArg Prod.fst hprepare), hsame]
      exact Or.inr ⟨e, hwritten, rfl⟩

/-- What comes of a dispatch whose command was performed, whether or not its output could be
delivered. -/
structure Delivered (shell : Shell) (command : Command) (state : State) (performed : Performed)
    (middle after : State) : Prop where
  performs : Performs shell (shell.execWithin maxNesting) command state.session.cwd
    (prepared command.plan state) performed middle
  delivers : middle.Delivers after
  dispatch_eq : shell.dispatch command state = .ok performed.result after ∨
    shell.dispatch command state = .error .hasNul after
  dispatch_eq_ok : (∀ target ∈ command.plan.targets,
      Path.hasNul (Path.anchor state.session.cwd target.path) = false) →
    shell.dispatch command state = .ok performed.result after
  terminal_eq : (∀ target ∈ command.plan.targets,
      Path.hasNul (Path.anchor state.session.cwd target.path) = false) →
    after.terminal = {
      stdout := middle.terminal.stdout ++ shownText performed command.plan .stdout
      stderr := middle.terminal.stderr ++
        complaint performed command.plan state.session.cwd .stdout
          (hostAt performed command.plan state.session.cwd middle .stdout) ++
        if command.plan.stderr.isNone then performed.result.stderr
        else complaint performed command.plan state.session.cwd .stderr
          (hostAt performed command.plan state.session.cwd middle .stderr) }

/-- A command that was performed has its output delivered, and nothing else is done. -/
theorem exists_delivered (hprepare : (command.plan.prepare state.session.cwd state.host).1 = .ok ())
    {performed : Performed} {middle : State}
    (hperform : shell.perform (shell.execWithin maxNesting) command state.session.cwd
      (prepared command.plan state) = .ok performed middle) :
    ∃ after, shell.Delivered command state performed middle after := by
  have hperforms := performs_of_perform _ hperform
  have hdelivers := State.admitsOutput_delivers.within_deliverAll performed command.plan
    state.session.cwd middle
  rcases deliverAll_eq_ok_or_hasNul performed command.plan state.session.cwd middle with
    ⟨after, hdeliver⟩ | ⟨⟨after, hdeliver⟩, target, htarget, hstops⟩
  · rw [Action.finalState_of_ok hdeliver] at hdelivers
    have hdispatch := dispatchWith_of_perform _ hprepare hperform hdeliver
    refine ⟨after, hperforms, hdelivers, Or.inl hdispatch, fun _ ↦ hdispatch, fun hnul ↦ ?_⟩
    obtain ⟨between, shown, hbetween, hshown, hterminal⟩ :=
      exists_deliverAll_shows hnul (resultsIn_of_perform hperform).2
    obtain rfl : after = shown := (EStateM.Result.ok.inj (hdeliver.symm.trans hshown)).2
    rw [hostAt, hostAt, Action.finalState_of_ok hbetween]
    exact hterminal
  · -- The command was performed all the same, so the fault is the last thing that happens.
    rw [Action.finalState_of_error hdeliver] at hdelivers
    have hsome : ¬∀ target ∈ command.plan.targets,
        Path.hasNul (Path.anchor state.session.cwd target.path) = false := by
      intro hnul
      rw [hnul target htarget] at hstops
      contradiction
    refine ⟨after, hperforms, hdelivers, Or.inr ?_, fun hnul ↦ absurd hnul hsome,
      fun hnul ↦ absurd hnul hsome⟩
    rw [dispatch, dispatchWith_apply_of_prepared _ _ _ hprepare, Action.bind_apply, hperform]
    dsimp only
    rw [Action.bind_apply, hdeliver]

/-- **A target that is appended to does not stop a command.** Let the target of a stream be one that
is appended to, and let it be closed when a command is dispatched. If the other stream has a target
that is to be emptied and cannot be opened, the command is refused for that one, and only the
terminal changes. Else the command is performed as it is without the closed target, and delivering
its output changes nothing but the terminal and files. If the target is still closed when there is
output for it, the terminal is told so; and it is, if the command left the file tree alone or just
wrote to files, unless it moved the place from which the path is seen. -/
theorem dispatch_performs_before_appending (shell : Shell) (command : Command) (state : State)
    {stream : Stream} {appended : Target} (htarget : command.plan.target? stream = some appended)
    (hmode : appended.mode = .append) (hclosed : ¬appended.Openable state.session.cwd state.host) :
    (∀ target ∈ command.plan.targets, target.mode = .truncate →
      ¬target.Openable state.session.cwd state.host → shell.StopsAt command state target) ∧
    ((∀ target ∈ command.plan.targets, target.mode = .truncate →
        target.Openable state.session.cwd state.host) →
      let performing := shell.perform (shell.execWithin maxNesting) command state.session.cwd
      (∀ fault middle, performing (prepared command.plan state) = .error fault middle →
        shell.dispatch command state = .error fault middle ∧
        ∃ path, shell.resolve state command.name = .external path ∧
          middle.journal = state.journal ++
            [.launched (launchFor command path state.session.cwd)]) ∧
      ∀ performed middle, performing (prepared command.plan state) = .ok performed middle →
        (∃ after, shell.Delivered command state performed middle after) ∧
        (state.host.tree.Becomes middle.host.tree →
          Path.isAbsolute state.session.cwd = true ∨ middle.host.cwd = state.host.cwd →
          ¬appended.Openable state.session.cwd middle.host) ∧
        (¬appended.Openable state.session.cwd middle.host →
          Path.hasNul (Path.anchor state.session.cwd appended.path) = false →
          ComplainsOf performed command.plan state.session.cwd stream
            (hostAt performed command.plan state.session.cwd middle stream) appended)) := by
  refine ⟨fun target ↦ stopsAt_of_append htarget hmode, fun hopen ↦ ?_⟩
  have hprepare : (command.plan.prepare state.session.cwd state.host).1 = .ok () :=
    Redirection.prepareTargets_of_openable hopen
  refine ⟨fun fault middle hperform ↦ ⟨?_, ?_⟩, fun performed middle hperform ↦
    ⟨exists_delivered hprepare hperform, fun htree hcwd hopened ↦ ?_, fun hstill hnul ↦ ?_⟩⟩
  · rw [dispatch, dispatchWith_apply_of_prepared _ _ _ hprepare, Action.bind_apply, hperform]
  · obtain ⟨path, hresolve, rfl⟩ := exists_launched_of_perform_eq_error _ hperform
    exact ⟨path, (shell.resolve_prepared command.plan state command.name).symm.trans hresolve, rfl⟩
  · exact hclosed ((Target.openable_iff_of_tree htree hcwd).mp hopened)
  · -- Delivering the standard output does not open the target of the standard error.
    refine complainsOf_of_not_openable htarget hnul ?_
    rwa [Redirection.openable_iff_of_becomes
      (becomes_hostAt performed command.plan state.session.cwd middle stream)]

/-- The shell moves to another directory although the output of `cd` cannot be appended to a file
whose own directory does not exist. -/
theorem cd_moves_before_appending :
    let shell : Shell := { launcher := fun host _ ↦ (.ok {}, host) }
    let state : State := {
      session := { cwd := "/w", home := "/" }
      host := { tree := ⟨[(["w"], .directory), (["w", "d"], .directory)]⟩ } }
    let appended : Target := ⟨"none/log", .append⟩
    let command : Command := ⟨"cd", ["d"], { stdout := some appended }⟩
    command.plan.target? .stdout = some appended ∧ appended.mode = .append ∧
    ¬appended.Openable state.session.cwd state.host ∧
    ∃ result after, shell.dispatch command state = .ok result after ∧ result.exitCode = 0 ∧
      after.session.cwd = "/w/d" ∧ after.journal = [.called "cd" ["d"]] ∧
      after.terminal = { stderr := "minish: none/log: No such file or directory\n" } := by
  intro shell state appended command
  have hclosed : ¬appended.Openable state.session.cwd state.host :=
    Redirection.not_openable_of_nowhere (by decide +kernel)
  have hopen : ∀ target ∈ command.plan.targets, target.mode = .truncate →
      target.Openable state.session.cwd state.host := by
    intro target htarget htruncate
    rw [List.mem_singleton.mp htarget] at htruncate
    contradiction
  have hnul : ∀ target ∈ command.plan.targets,
      Path.hasNul (Path.anchor state.session.cwd target.path) = false := by
    intro target htarget
    rw [List.mem_singleton.mp htarget]
    decide +kernel
  let performing := shell.perform (shell.execWithin maxNesting) command state.session.cwd
  obtain ⟨performed, middle, hperform⟩ : ∃ performed middle,
      performing (prepared command.plan state) = .ok performed middle :=
    exists_perform_of_attempted _ fun _ _ ↦ trivial
  have hmiddle : performing.finalState (prepared command.plan state) = middle :=
    Action.finalState_of_ok hperform
  have hvalue : performing.value? (prepared command.plan state) = some performed :=
    Action.value?_of_ok hperform
  have hhost : middle.host = state.host := by
    rw [← hmiddle]
    decide +kernel
  have hresult : performed.result = {} := by
    have hcomputed : (performing.value? (prepared command.plan state)).map Performed.result
        = some {} := by decide +kernel
    rw [hvalue] at hcomputed
    exact Option.some.inj hcomputed
  have houtput : performed.output .stdout = some (.text "") := by
    have hcomputed : (performing.value? (prepared command.plan state)).map (·.output .stdout)
        = some (some (.text "")) := by decide +kernel
    rw [hvalue] at hcomputed
    exact Option.some.inj hcomputed
  obtain ⟨-, hperforms⟩ := (shell.dispatch_performs_before_appending command state
    (show command.plan.target? .stdout = some appended from rfl) rfl hclosed).2 hopen
  obtain ⟨⟨after, hafter⟩, -, hcomplains⟩ := hperforms performed middle hperform
  obtain ⟨e, hwrite, hcomplaint⟩ := hcomplains (by rw [hhost]; exact hclosed)
    (hnul appended (List.mem_singleton.mpr rfl)) _ houtput
  have hreason : e = .noEntry := by
    rw [hostAt, hhost] at hwrite
    have hcomputed : state.host.write .append (Path.anchor state.session.cwd appended.path) []
        = .error (.file .noEntry) := by decide +kernel
    injection hwrite.symm.trans hcomputed with hsame
    exact PathError.file.inj hsame
  have hterminal := hafter.terminal_eq hnul
  rw [hcomplaint, hreason, hresult] at hterminal
  refine ⟨rfl, rfl, hclosed, _, after, hafter.dispatch_eq_ok hnul, ?_, ?_, ?_, ?_⟩
  · rw [hresult]
  · rw [hafter.delivers.session_eq, ← hmiddle]
    decide +kernel
  · rw [hafter.delivers.journal_eq, ← hmiddle]
    decide +kernel
  · have hblank : middle.terminal = {} := by
      rw [← hmiddle]
      decide +kernel
    rw [hterminal, hblank]
    rfl

/-- The shell is told to stop although the output of `exit` cannot be appended to a directory. -/
theorem exit_happens_before_appending :
    let shell : Shell := { launcher := fun host _ ↦ (.ok {}, host) }
    let state : State := {
      session := { cwd := "/w", home := "/" }
      host := { tree := ⟨[(["w"], .directory)]⟩ } }
    let appended : Target := ⟨"/w", .append⟩
    let command : Command := ⟨"exit", ["3"], { stdout := some appended }⟩
    ¬appended.Openable state.session.cwd state.host ∧
    ∃ result after, shell.dispatch command state = .ok result after ∧ result.exitCode = 0 ∧
      after.exitStatus = some 3 ∧ after.journal = [.called "exit" ["3"]] ∧
      after.terminal = { stderr := "minish: /w: Is a directory\n" } := by
  intro shell state appended command
  have hclosed : ¬appended.Openable state.session.cwd state.host :=
    Redirection.not_openable_of_directory (by decide +kernel)
  have hdispatch : shell.dispatch command state
      = .ok {} ((shell.dispatch command).finalState state) :=
    Action.eq_ok_of_value? (by decide +kernel)
  have hstatus : ((shell.dispatch command).finalState state).exitStatus = some 3 := by
    decide +kernel
  have hjournal : ((shell.dispatch command).finalState state).journal
      = [.called "exit" ["3"]] := by decide +kernel
  have hterminal : ((shell.dispatch command).finalState state).terminal
      = { stderr := "minish: /w: Is a directory\n" } := by decide +kernel
  exact ⟨hclosed, _, _, hdispatch, rfl, hstatus, hjournal, hterminal⟩

end Shell

end LineShell
