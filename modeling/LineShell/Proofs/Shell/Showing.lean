import LineShell.Proofs.Shell.Performing

/-!
# What the terminal is shown

The output of a command goes where its plan says. A stream without a target is shown on the terminal
and a stream with one is not; besides, the terminal is told of a target that could not be written,
on the standard error, and of nothing else (`Shell.dispatch_shows`). A failed delivery comes too
late to change the result of the command.

This is so for commands that write nothing to the terminal while they are carried out. A command of
the shell can do so only by executing text. What a program writes to the streams that it inherits is
not shown by the shell: it is on the host.

The messages that the shell words itself are standard output, so that a plan that sends the standard
output to a file sends them there too: `Shell.ResultsIn` tells which they are.
-/

namespace LineShell

open Redirection (Target Plan)

namespace Terminal

/-- Showing an empty text shows nothing. -/
theorem display_empty (terminal : Terminal) (stream : Stream) :
    terminal.display stream (.text "") = terminal :=
  terminal.display_of_isEmpty stream rfl

/-- Bytes are shown as the text that they are read as. -/
theorem display_toText (terminal : Terminal) (stream : Stream) (output : Output) :
    terminal.display stream (.text output.toText) = terminal.display stream output := by
  cases stream <;> rfl

end Terminal

namespace Shell

/-! ## Delivering one stream -/

/-- Nothing comes of texts that are empty. -/
theorem deliverAll_of_silent (cwd : String) (state : State) :
    deliverAll (.ofResult {}) {} cwd state = .ok () state := by
  have hsilent (stream : Stream) :
      deliverOutput (.ofResult {}) {} cwd stream state = .ok () state := by
    cases stream <;> rfl
  rw [deliverAll, Action.bind_apply, hsilent]
  exact hsilent .stderr

section Delivery

variable (performed : Performed) (plan : Plan) (cwd : String) (stream : Stream)

/-- What is shown of a stream: the text of the result, if the stream has no target. -/
def shownText : String :=
  if (plan.target? stream).isNone then performed.result.text stream else ""

/-- What the terminal is told if what there is for a stream cannot be written to its target. -/
def complaint (host : Host) : String :=
  match performed.output stream, plan.target? stream with
  | some output, some target =>
    match host.write target.mode (Path.anchor cwd target.path) output.toBytes with
    | .error (.file e) => shellMessage (target.path ++ ": " ++ e.reason)
    | _ => ""
  | _, _ => ""

/-- Whether what is handed over for a stream without a target is the text of the result. -/
def HandsOverText : Prop :=
  plan.target? stream = none →
    (performed.output stream).elim "" Output.toText = performed.result.text stream

variable {performed plan cwd stream} {state : State}

/-- A stream without a target is shown. -/
theorem exists_deliverOutput_of_none (htarget : plan.target? stream = none)
    (htext : HandsOverText performed plan stream) :
    ∃ after, deliverOutput performed plan cwd stream state = .ok () after ∧
      after.terminal = state.terminal.display stream (.text (performed.result.text stream)) := by
  rw [← htext htarget, deliverOutput, htarget]
  cases performed.output stream with
  | none => exact ⟨state, rfl, (state.terminal.display_empty stream).symm⟩
  | some output =>
    dsimp only
    rw [deliver_none]
    exact ⟨_, rfl, (state.terminal.display_toText stream output).symm⟩

/-- A stream with a target is not shown, but the terminal is told if it cannot be written. -/
theorem exists_deliverOutput_of_some {target : Target}
    (htarget : plan.target? stream = some target)
    (hnul : Path.hasNul (Path.anchor cwd target.path) = false) :
    ∃ after, deliverOutput performed plan cwd stream state = .ok () after ∧
      after.terminal = state.terminal.display .stderr
        (.text (complaint performed plan cwd stream state.host)) := by
  have hnothing := (state.terminal.display_empty .stderr).symm
  rw [deliverOutput, complaint, htarget]
  -- The complaint is read off the same write that delivering makes.
  cases performed.output stream with
  | none => exact ⟨state, rfl, hnothing⟩
  | some output =>
    dsimp only
    rw [deliver_some, Action.get_bind_apply]
    cases hwrite : Redirection.writeTarget target output.toBytes cwd state.host with
    | ok host =>
      rw [Redirection.writeTarget_eq_ok_iff.mp hwrite]
      exact ⟨_, rfl, hnothing⟩
    | error e =>
      cases e with
      | hasNul =>
        rw [Redirection.writeTarget_eq_hasNul_iff, hnul] at hwrite
        contradiction
      | refused path e =>
        obtain ⟨rfl, herror⟩ := Redirection.writeTarget_eq_refused_iff.mp hwrite
        rw [herror]
        exact ⟨_, rfl, rfl⟩

/-- What a stream is sent to shows in one place: as its text, or as a complaint. -/
theorem exists_deliverOutput_shows
    (hnul : ∀ target ∈ plan.targets, Path.hasNul (Path.anchor cwd target.path) = false)
    (htext : HandsOverText performed plan stream) :
    ∃ after, deliverOutput performed plan cwd stream state = .ok () after ∧
      after.terminal
        = (state.terminal.display stream (.text (shownText performed plan stream))).display .stderr
          (.text (complaint performed plan cwd stream state.host)) := by
  cases htarget : plan.target? stream with
  | none =>
    have hshown : shownText performed plan stream = performed.result.text stream := by
      rw [shownText, htarget]
      rfl
    have hcomplaint : complaint performed plan cwd stream state.host = "" := by
      rw [complaint, htarget]
      cases performed.output stream <;> rfl
    rw [hshown, hcomplaint, Terminal.display_empty]
    exact exists_deliverOutput_of_none htarget htext
  | some target =>
    have hshown : shownText performed plan stream = "" := by
      rw [shownText, htarget]
      rfl
    rw [hshown, Terminal.display_empty]
    exact exists_deliverOutput_of_some htarget
      (hnul target (Redirection.mem_targets_iff.mpr ⟨stream, htarget⟩))

/-- The standard output shows first. The standard error is delivered on the host that is left then,
on which its target may be another one. -/
theorem exists_deliverAll_shows
    (hnul : ∀ target ∈ plan.targets, Path.hasNul (Path.anchor cwd target.path) = false)
    (htext : ∀ stream, HandsOverText performed plan stream) :
    ∃ between after, deliverOutput performed plan cwd .stdout state = .ok () between ∧
      deliverAll performed plan cwd state = .ok () after ∧
      after.terminal = {
        stdout := state.terminal.stdout ++ shownText performed plan .stdout
        stderr := state.terminal.stderr ++ complaint performed plan cwd .stdout state.host ++
          if plan.stderr.isNone then performed.result.stderr
          else complaint performed plan cwd .stderr between.host } := by
  obtain ⟨between, hbetween, hstdout⟩ := exists_deliverOutput_shows hnul (htext .stdout)
  obtain ⟨after, hafter, hstderr⟩ := exists_deliverOutput_shows hnul (htext .stderr)
  refine ⟨between, after, hbetween, ?_, ?_⟩
  · rw [deliverAll, Action.bind_apply, hbetween]
    exact hafter
  · -- A stream shows its text or a complaint, and the other one of the two is empty.
    have hone : shownText performed plan .stderr ++
          complaint performed plan cwd .stderr between.host
        = if plan.stderr.isNone then performed.result.stderr
          else complaint performed plan cwd .stderr between.host := by
      rw [shownText, Plan.target?]
      cases htarget : plan.stderr with
      | none =>
        have hcomplaint : complaint performed plan cwd .stderr between.host = "" := by
          rw [complaint, Plan.target?, htarget]
          cases performed.output .stderr <;> rfl
        rw [hcomplaint]
        exact String.append_empty
      | some target => exact String.empty_append
    rw [hstderr, hstdout, ← hone, ← String.append_assoc]
    rfl

end Delivery

/-! ## Results -/

/-- Whether a result is what a command comes to, given what its name stands for: what the command of
the shell ends with, the exit code of the program, or a message of the shell. -/
def ResultsIn (shell : Shell) (command : Command) (state : State) (result : CommandResult) :
    Resolution → Prop
  | .builtin => ∃ handler after,
      shell.commands.find? command.name = some handler ∧
      shell.runProcedure (shell.execWithin maxNesting) command.name (handler command.args)
        (logged (.called command.name command.args) (prepared command.plan state))
          = .ok result after ∧
      ((∃ name, (name, handler) ∈ standardCommands.entries) → result.stderr = "")
  | .external path =>
      match (shell.launcher (prepared command.plan state).host
        (launchFor command path state.session.cwd)).1 with
      | .ok finished => result = { exitCode := finished.exitCode }
      | .error (.notStarted failure) =>
        result = { stdout := line (command.name ++ ": " ++ failure.reason), exitCode := 126 }
      | .error _ => False
  | .notFound =>
      result = { stdout := line (command.name ++ ": command not found"), exitCode := 127 }

variable {shell : Shell} {command : Command} {state : State}

/-- What a command that was performed hands over, and what it comes to. -/
theorem resultsIn_of_perform {performed : Performed} {after : State}
    (h : shell.perform (shell.execWithin maxNesting) command state.session.cwd
      (prepared command.plan state) = .ok performed after) :
    shell.ResultsIn command state performed.result (shell.resolve state command.name) ∧
      ∀ stream, HandsOverText performed command.plan stream := by
  rw [← shell.resolve_prepared command.plan state command.name]
  cases performs_of_perform _ h with
  | @called handler result after hfind hrun =>
    have hbuiltin : shell.resolve (prepared command.plan state) command.name = .builtin :=
      shell.resolve_eq_builtin_iff.mpr ⟨handler, hfind⟩
    rw [hbuiltin]
    refine ⟨⟨handler, after, hfind, hrun, ?_⟩, fun stream _ ↦ rfl⟩
    rintro ⟨name, hstandard⟩
    have hreplies : (handler command.args).Replies fun result ↦ result.stderr = "" :=
      Builtin.replies_of_mem_standardCommands hstandard command.args
    exact hreplies.of_runProcedure (fun _ ↦ rfl) hrun
  | finished hresolve houtcome =>
    rw [hresolve, ResultsIn, houtcome]
    refine ⟨rfl, fun stream htarget ↦ ?_⟩
    rw [Performed.output_ofFinished, htarget]
    cases stream <;> rfl
  | notStarted hresolve houtcome =>
    rw [hresolve, ResultsIn, houtcome]
    exact ⟨rfl, fun stream _ ↦ rfl⟩
  | notFound hresolve =>
    rw [hresolve]
    exact ⟨rfl, fun stream _ ↦ rfl⟩

/-- Nothing is shown before the output is delivered, if a command of the shell shows nothing. -/
theorem terminal_of_perform {performed : Performed} {after : State}
    (hquiet : ∀ handler, shell.commands.find? command.name = some handler →
      ((shell.perform (shell.execWithin maxNesting) command state.session.cwd).finalState
        (prepared command.plan state)).terminal = state.terminal)
    (h : shell.perform (shell.execWithin maxNesting) command state.session.cwd
      (prepared command.plan state) = .ok performed after) :
    after.terminal = state.terminal := by
  cases performs_of_perform _ h with
  | called hfind hrun => rw [← hquiet _ hfind, Action.finalState_of_ok h]
  | finished | notStarted | notFound => rfl

/-! ## The whole dispatch -/

/-- **Output goes where the plan says.** Dispatching a command whose targets could be prepared gives
the command its result, whether or not its output can be delivered. The terminal is shown the text
of each stream that has no target, and is told of each target that could not be written, the one of
the standard output first. -/
theorem dispatch_shows (shell : Shell) (command : Command) (state : State)
    (hnul : ∀ target ∈ command.plan.targets,
      Path.hasNul (Path.anchor state.session.cwd target.path) = false)
    (hprepare : (command.plan.prepare state.session.cwd state.host).1 = .ok ())
    (hlauncher : ∀ path, shell.resolve state command.name = .external path →
      Launch.Attempted (shell.launcher (prepared command.plan state).host
        (launchFor command path state.session.cwd)).1)
    (hquiet : ∀ handler, shell.commands.find? command.name = some handler →
      ((shell.perform (shell.execWithin maxNesting) command state.session.cwd).finalState
        (prepared command.plan state)).terminal = state.terminal) :
    ∃ performed middle between after,
      shell.perform (shell.execWithin maxNesting) command state.session.cwd
        (prepared command.plan state) = .ok performed middle ∧
      deliverOutput performed command.plan state.session.cwd .stdout middle = .ok () between ∧
      shell.dispatch command state = .ok performed.result after ∧
      shell.ResultsIn command state performed.result (shell.resolve state command.name) ∧
      after.terminal = {
        stdout := state.terminal.stdout ++
          if command.plan.stdout.isNone then performed.result.stdout else ""
        stderr := state.terminal.stderr ++
          complaint performed command.plan state.session.cwd .stdout middle.host ++
          if command.plan.stderr.isNone then performed.result.stderr
          else complaint performed command.plan state.session.cwd .stderr between.host } := by
  have hresolve := shell.resolve_prepared command.plan state command.name
  obtain ⟨performed, middle, hperform⟩ : ∃ performed middle,
      shell.perform (shell.execWithin maxNesting) command state.session.cwd
        (prepared command.plan state) = .ok performed middle :=
    exists_perform_of_attempted _ fun path hpath ↦ hlauncher path (hresolve.symm.trans hpath)
  obtain ⟨hresults, htext⟩ := resultsIn_of_perform hperform
  obtain ⟨between, after, hbetween, hdeliver, hterminal⟩ := exists_deliverAll_shows hnul htext
  rw [terminal_of_perform hquiet hperform] at hterminal
  exact ⟨performed, middle, between, after, hperform, hbetween,
    dispatchWith_of_perform _ hprepare hperform hdeliver, hresults, hterminal⟩

/-- A command that writes to both streams, the first of them to a device that takes nothing: the
terminal is told so before it is shown the second, and the exit code is that of the command. -/
theorem full_device_is_told_first :
    let warn : Handler := fun _ ↦ .reply { stdout := "out\n", stderr := "err\n", exitCode := 3 }
    let shell : Shell := {
      commands := standardCommands.insert "warn" warn
      launcher := fun host _ ↦ (.ok {}, host) }
    let state : State := {
      session := { cwd := "/", home := "/" }
      host := { tree := ⟨[(["full"], .device .full)]⟩ } }
    let command : Command := ⟨"warn", [], { stdout := some ⟨"full", .truncate⟩ }⟩
    (∀ target ∈ command.plan.targets,
      Path.hasNul (Path.anchor state.session.cwd target.path) = false) ∧
    (command.plan.prepare state.session.cwd state.host).1 = .ok () ∧
    (∀ path, shell.resolve state command.name = .external path →
      Launch.Attempted (shell.launcher (prepared command.plan state).host
        (launchFor command path state.session.cwd)).1) ∧
    (∀ handler, shell.commands.find? command.name = some handler →
      ((shell.perform (shell.execWithin maxNesting) command state.session.cwd).finalState
        (prepared command.plan state)).terminal = state.terminal) ∧
    ∃ result after, shell.dispatch command state = .ok result after ∧ result.exitCode = 3 ∧
      after.terminal = { stderr := "minish: full: No space left on device\nerr\n" } := by
  intro warn shell state command
  have hnul : ∀ target ∈ command.plan.targets,
      Path.hasNul (Path.anchor state.session.cwd target.path) = false := by
    intro target htarget
    rw [List.mem_singleton.mp htarget]
    decide +kernel
  have hprepare : (command.plan.prepare state.session.cwd state.host).1 = .ok () := by
    decide +kernel
  have hlauncher : ∀ path, shell.resolve state command.name = .external path →
      Launch.Attempted (shell.launcher (prepared command.plan state).host
        (launchFor command path state.session.cwd)).1 := fun _ _ ↦ trivial
  have hquiet : ∀ handler, shell.commands.find? command.name = some handler →
      ((shell.perform (shell.execWithin maxNesting) command state.session.cwd).finalState
        (prepared command.plan state)).terminal = state.terminal := by
    intro handler hfind
    have hdirect : (handler command.args).Direct := by
      obtain rfl : warn = handler := Option.some.inj hfind
      exact .reply _
    exact keeps_perform_of_direct _ hfind hdirect (fun _ _ ↦ rfl) (fun _ _ ↦ rfl)
      (Action.keeps_chdir fun _ _ _ ↦ rfl) _ (prepared command.plan state)
  obtain ⟨performed, middle, between, after, hperform, -, hdispatch, -, hterminal⟩ :=
    shell.dispatch_shows command state hnul hprepare hlauncher hquiet
  obtain ⟨rfl, hmiddle⟩ := EStateM.Result.ok.inj hperform
  have hhost : middle.host = (prepared command.plan state).host := by rw [← hmiddle]
  have hcomplaint : complaint
      (.ofResult { stdout := "out\n", stderr := "err\n", exitCode := 3 }) command.plan
      state.session.cwd .stdout (prepared command.plan state).host
        = "minish: full: No space left on device\n" := by
    decide +kernel
  rw [hhost, hcomplaint] at hterminal
  exact ⟨hnul, hprepare, hlauncher, hquiet, _, after, hdispatch, rfl,
    hterminal.trans (by simp [command, state, Performed.ofResult])⟩

/-- A target is not told of if it cannot be written for a NUL character that comes in from the
working directory: the command has no result then, although its output was shown. -/
theorem nul_stops_telling :
    let shell : Shell := { launcher := fun host _ ↦ (.ok {}, host) }
    let state : State := { session := { cwd := "a\x00b", home := "/" } }
    let command : Command := ⟨"echo", ["hi"], { stderr := some ⟨"f", .append⟩ }⟩
    (∀ target ∈ command.plan.targets,
      Path.hasNul target.path = false ∧ target.mode ≠ .truncate) ∧
    shell.commands.find? command.name = some Builtin.echo ∧
    ∃ after, shell.dispatch command state = .error .hasNul after ∧
      after.terminal = { stdout := "hi\n" } := by
  intro shell state command
  have hpaths : ∀ target ∈ command.plan.targets,
      Path.hasNul target.path = false ∧ target.mode ≠ .truncate := by
    intro target htarget
    rw [List.mem_singleton.mp htarget]
    decide
  have hdispatch : shell.dispatch command state = .error .hasNul
      ((shell.dispatch command).finalState state) :=
    Action.eq_error_of_fault? (by decide +kernel)
  have hshown : ((shell.dispatch command).finalState state).terminal = { stdout := "hi\n" } := by
    decide +kernel
  exact ⟨hpaths, rfl, _, hdispatch, hshown⟩

end Shell

end LineShell
