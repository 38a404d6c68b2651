import LineShell.Proofs.Shell.Performing

/-!
# Resolution, dispatch and `type` agree

A name is looked up three times over: dispatch asks the table of commands, then, after the targets
were prepared, what the name stands for; and `type` asks again when it is called. The three answers
are the same, since preparing targets only writes to files and writing to files does not change what
a name stands for (`Shell.resolve_prepared`).

## What counts as starting something

The journal holds what was started. A command of the shell may execute text and so start more by
itself; what it starts is the journal that its procedure leaves when the journal was empty before.
Dispatch starts the command, once, and adds nothing to what the command starts.

## NUL characters

A target is opened for appending only when output is delivered. If its path holds a NUL character,
which it may have from the working directory of the session, the delivery stops with a fault and the
command has no result (`Shell.exists_dispatch_eq_hasNul`). Likewise `type` without names is a misuse
and not a list of no verdicts. So paths are asked to be free of NUL characters as seen from the
working directory, and `type` is asked about one name at least.
-/

namespace LineShell

namespace Shell

variable (shell : Shell)

/-! ## What dispatch has to do -/

/-- The run of a command of the shell by itself, with nothing written down before. -/
def ownRun (handler : Handler) (command : Command) : Action CommandResult := fun state ↦
  shell.runProcedure (shell.execWithin maxNesting) command.name (handler command.args)
    { prepared command.plan state with journal := [] }

/-- Whether dispatching a command does what a resolution of its name asks for. -/
def DispatchesAs (command : Command) (state : State) : Resolution → Prop
  | .builtin => ∃ handler result own after,
      shell.commands.find? command.name = some handler ∧
      shell.ownRun handler command state = .ok result own ∧
      shell.dispatch command state = .ok result after ∧
      after.journal = state.journal ++ .called command.name command.args :: own.journal ∧
      ((handler command.args).Direct → own.journal = [])
  | .external path =>
      let launch : Launch :=
        ⟨path, command.name :: command.args, command.plan.stdio, state.session.cwd⟩
      ((shell.dispatch command).finalState state).journal = state.journal ++ [.launched launch] ∧
      ∀ finished, (shell.launcher (prepared command.plan state).host launch).1 = .ok finished →
        ∃ after, shell.dispatch command state = .ok { exitCode := finished.exitCode } after
  | .notFound => ∃ result after,
      shell.dispatch command state = .ok result after ∧ result.exitCode = 127 ∧
      after.journal = state.journal

/-! ## Commands of the shell -/

/-- A command writes down the same whatever was written before. -/
theorem runProcedure_logged {name : String} {procedure : Procedure} {event : Event}
    {state after : State} {result : CommandResult}
    (h : shell.runProcedure (shell.execWithin maxNesting) name procedure (logged event state)
      = .ok result after) :
    ∃ own, shell.runProcedure (shell.execWithin maxNesting) name procedure
        { state with journal := [] } = .ok result own ∧
      after = own.withEarlier (state.journal ++ [event]) := by
  have hlogged : logged event state
      = State.withEarlier (state.journal ++ [event]) { state with journal := [] } := by
    rw [logged, State.withEarlier, List.append_nil]
  rw [hlogged, shell.journalBlind_runProcedure maxNesting] at h
  cases hrun : shell.runProcedure (shell.execWithin maxNesting) name procedure
      { state with journal := [] } with
  | error fault own =>
    rw [hrun] at h
    contradiction
  | ok value own =>
    rw [hrun] at h
    obtain ⟨rfl, rfl⟩ := EStateM.Result.ok.inj h
    exact ⟨own, rfl, rfl⟩

/-- A direct command starts nothing. -/
theorem journal_ownRun_of_direct {handler : Handler} {command : Command} {state own : State}
    {result : CommandResult} (hdirect : (handler command.args).Direct)
    (h : shell.ownRun handler command state = .ok result own) : own.journal = [] := by
  have hkeeps : Action.Keeps State.journal (shell.runProcedure (shell.execWithin maxNesting)
      command.name (handler command.args)) :=
    hdirect.keeps (fun _ _ ↦ rfl) (Action.keeps_chdir fun _ _ _ ↦ rfl) shell _ _
  rw [← Action.finalState_of_ok h]
  exact hkeeps { prepared command.plan state with journal := [] }

/-! ## The three cases of dispatch -/

section Cases

variable {command : Command} {state : State}
  (hnul : ∀ target ∈ command.plan.targets,
    Path.hasNul (Path.anchor state.session.cwd target.path) = false)
  (hprepare : (command.plan.prepare state.session.cwd state.host).1 = .ok ())
include hnul hprepare

/-- A command that was performed is delivered and leaves its result. -/
theorem exists_dispatch_of_perform {performed : Performed} {middle : State}
    (hperform : shell.perform (shell.execWithin maxNesting) command state.session.cwd
      (prepared command.plan state) = .ok performed middle) :
    ∃ after, shell.dispatch command state = .ok performed.result after ∧
      after.journal = middle.journal := by
  obtain ⟨after, hafter⟩ := exists_deliverAll_eq_ok hnul performed middle
  refine ⟨after, dispatchWith_of_perform _ hprepare hperform hafter, ?_⟩
  rw [← Action.finalState_of_ok hafter]
  exact keeps_journal_deliverAll _ _ _ middle

theorem dispatchesAs_builtin (hresolve : shell.resolve state command.name = .builtin) :
    shell.DispatchesAs command state .builtin := by
  obtain ⟨handler, hfind⟩ := shell.resolve_eq_builtin_iff.mp hresolve
  obtain ⟨result, ran, hrun, hperform⟩ := exists_perform_of_handler
    (shell.execWithin maxNesting) hfind state.session.cwd (prepared command.plan state)
  obtain ⟨own, hown, rfl⟩ := shell.runProcedure_logged hrun
  obtain ⟨after, hafter, hjournal⟩ := shell.exists_dispatch_of_perform hnul hprepare hperform
  refine ⟨handler, result, own, after, hfind, hown, hafter, ?_,
    fun hdirect ↦ shell.journal_ownRun_of_direct hdirect hown⟩
  rw [hjournal, State.withEarlier_journal, List.append_assoc]
  rfl

theorem dispatchesAs_external {path : String}
    (hresolve : shell.resolve state command.name = .external path) :
    shell.DispatchesAs command state (.external path) := by
  rw [← shell.resolve_prepared command.plan] at hresolve
  have hperform := perform_of_external (shell.execWithin maxNesting) hresolve state.session.cwd
  refine ⟨?_, fun finished hfinished ↦ ?_⟩
  · -- Whatever comes of the program, it was written down before it was asked to run.
    rw [dispatch, journal_dispatchWith _ hprepare, Action.finalState, hperform]
    cases (shell.launcher (prepared command.plan state).host
        (launchFor command path state.session.cwd)).1 with
    | ok finished => rfl
    | error e => cases e <;> rfl
  · rw [launchFor, hfinished] at hperform
    obtain ⟨after, hafter, -⟩ := shell.exists_dispatch_of_perform hnul hprepare hperform
    exact ⟨after, hafter⟩

theorem dispatchesAs_notFound (hresolve : shell.resolve state command.name = .notFound) :
    shell.DispatchesAs command state .notFound := by
  rw [← shell.resolve_prepared command.plan] at hresolve
  have hperform := perform_of_notFound (shell.execWithin maxNesting) hresolve state.session.cwd
  obtain ⟨after, hafter, hjournal⟩ := shell.exists_dispatch_of_perform hnul hprepare hperform
  exact ⟨_, after, hafter, rfl, hjournal⟩

theorem dispatchesAs_resolve :
    shell.DispatchesAs command state (shell.resolve state command.name) := by
  cases hresolve : shell.resolve state command.name with
  | builtin => exact shell.dispatchesAs_builtin hnul hprepare hresolve
  | external path => exact shell.dispatchesAs_external hnul hprepare hresolve
  | notFound => exact shell.dispatchesAs_notFound hnul hprepare hresolve

end Cases

/-! ## What `type` prints -/

/-- The lines that tell what names stand for. -/
def verdicts (state : State) (names : List String) : String :=
  String.join (names.map fun name ↦ line ((shell.resolve state name).verdict name))

theorem runProcedure_typeFrom (nested : String → Action CommandResult) (word printed : String)
    (missing : Bool) (names : List String) (state : State) :
    shell.runProcedure nested word (Builtin.typeFrom printed missing names) state =
      .ok { stdout := printed ++ shell.verdicts state names
            exitCode := if missing = true ∨ ∃ name ∈ names, shell.resolve state name = .notFound
              then 1 else 0 } state := by
  induction names generalizing printed missing with
  | nil => simp [Builtin.typeFrom, runProcedure, verdicts, Action.pure_apply]
  | cons name rest ih =>
    rw [Builtin.typeFrom, runProcedure, Action.get_bind_apply, ih]
    have hmissing : (missing || !(shell.resolve state name).found) = true ↔
        missing = true ∨ shell.resolve state name = .notFound := by
      cases shell.resolve state name <;> simp [Resolution.found]
    have hnames : (∃ other ∈ name :: rest, shell.resolve state other = .notFound) ↔
        shell.resolve state name = .notFound ∨
          ∃ other ∈ rest, shell.resolve state other = .notFound := by
      simp
    simp only [hmissing, hnames, verdicts, List.map_cons, String.join_cons, String.append_assoc,
      or_assoc]

theorem stdout_deliverAll_ofResult {result : CommandResult} {plan : Redirection.Plan} {cwd : String}
    {state after : State} (h : deliverAll (.ofResult result) plan cwd state = .ok () after)
    (hterminal : plan.stdout = none) :
    after.terminal.stdout = state.terminal.stdout ++ result.stdout := by
  have hdisplay : deliverOutput (.ofResult result) plan cwd .stdout
      = Action.display .stdout (.text result.stdout) := by
    change deliver .stdout (.text result.stdout) plan.stdout cwd = _
    rw [hterminal, deliver_none]
  -- What is delivered to the standard error does not show on the standard output.
  have hstderr : Action.Keeps (fun state ↦ state.terminal.stdout)
      (deliverOutput (.ofResult result) plan cwd .stderr) :=
    keeps_deliverOutput (fun _ _ ↦ rfl) (fun _ _ ↦ rfl) (fun _ _ ↦ rfl) _ _ _
  rw [← Action.finalState_of_ok h]
  refine (Action.Keeps.finalState_bind (fun _ ↦ hstderr) state).trans ?_
  rw [hdisplay]
  rfl

theorem runProcedure_type {names : List String} (hnames : names ≠ [])
    (nested : String → Action CommandResult) (word : String) (state : State) :
    shell.runProcedure nested word (Builtin.type names) state =
      .ok { stdout := shell.verdicts state names
            exitCode := if ∃ name ∈ names, shell.resolve state name = .notFound then 1 else 0 }
        state := by
  cases names with
  | nil => contradiction
  | cons name rest =>
    rw [Builtin.type, runProcedure_typeFrom]
    · simp only [Bool.false_eq_true, false_or, String.empty_append]
    · exact List.cons_ne_nil name rest

/-- Dispatching `type` prints the verdicts of the state before the dispatch. -/
theorem dispatch_type {word : String} {names : List String} {plan : Redirection.Plan}
    {state : State} (hword : shell.commands.find? word = some Builtin.type) (hnames : names ≠ [])
    (hnul : ∀ target ∈ plan.targets,
      Path.hasNul (Path.anchor state.session.cwd target.path) = false)
    (hprepare : (plan.prepare state.session.cwd state.host).1 = .ok ()) :
    ∃ after,
      shell.dispatch ⟨word, names, plan⟩ state = .ok
        { stdout := shell.verdicts state names
          exitCode := if ∃ name ∈ names, shell.resolve state name = .notFound then 1 else 0 }
        after ∧
      (plan.stdout = none →
        after.terminal.stdout = state.terminal.stdout ++ shell.verdicts state names) := by
  have hfind : shell.commands.find? (Command.mk word names plan).name = some Builtin.type := hword
  obtain ⟨result, middle, hrun, hperform⟩ := exists_perform_of_handler
    (shell.execWithin maxNesting) hfind state.session.cwd (prepared plan state)
  have hresolve : shell.resolve (logged (.called word names) (prepared plan state))
      = shell.resolve state := funext fun name ↦ shell.resolve_prepared plan state name
  rw [shell.runProcedure_type hnames, verdicts, hresolve, ← verdicts] at hrun
  obtain ⟨rfl, rfl⟩ := EStateM.Result.ok.inj hrun
  obtain ⟨after, hafter⟩ := exists_deliverAll_eq_ok hnul _ _
  exact ⟨after, dispatchWith_of_perform _ hprepare hperform hafter,
    stdout_deliverAll_ofResult hafter⟩

/-! ## Agreement -/

/-- **Resolution, dispatch and `type` agree.** What a name stands for before the dispatch decides
what dispatching it starts, and it is what `type` tells of it, under any redirection whose targets
can be opened. -/
theorem dispatch_and_type_follow_resolve (plan : Redirection.Plan) (state : State)
    (hnul : ∀ target ∈ plan.targets,
      Path.hasNul (Path.anchor state.session.cwd target.path) = false)
    (hopen : ∀ target ∈ plan.targets, target.mode = .truncate →
      target.Openable state.session.cwd state.host) :
    (∀ name args, shell.DispatchesAs ⟨name, args, plan⟩ state (shell.resolve state name)) ∧
    ∀ word names, shell.commands.find? word = some Builtin.type → names ≠ [] →
      ∃ after,
        shell.dispatch ⟨word, names, plan⟩ state = .ok
          { stdout := String.join (names.map fun name ↦
              line ((shell.resolve state name).verdict name))
            exitCode := if ∃ name ∈ names, shell.resolve state name = .notFound then 1 else 0 }
          after ∧
        (plan.stdout = none →
          after.terminal.stdout = state.terminal.stdout ++ String.join (names.map fun name ↦
            line ((shell.resolve state name).verdict name))) := by
  have hprepare := Redirection.prepareTargets_of_openable hopen
  constructor
  · intro name args
    exact shell.dispatchesAs_resolve hnul hprepare
  · intro word names hword hnames
    exact shell.dispatch_type hword hnames hnul hprepare

/-- A program that is found is launched once, with its output captured for the target. -/
theorem dispatch_launches_found_program :
    let shell : Shell := { launcher := fun host _ ↦ (.ok {}, host) }
    let state : State := {
      session := { cwd := "/w", searchPath := ["/bin"], home := "/" }
      host := { tree := ⟨[(["w"], .directory), (["bin"], .directory),
        (["bin", "ls"], .file [] true)]⟩ } }
    let plan : Redirection.Plan := { stdout := some ⟨"out", .truncate⟩ }
    (∀ target ∈ plan.targets,
      Path.hasNul (Path.anchor state.session.cwd target.path) = false) ∧
    (∀ target ∈ plan.targets, target.mode = .truncate →
      target.Openable state.session.cwd state.host) ∧
    shell.DispatchesAs ⟨"ls", ["-l"], plan⟩ state (.external "/bin/ls") := by
  intro shell state plan
  have hnul : ∀ target ∈ plan.targets,
      Path.hasNul (Path.anchor state.session.cwd target.path) = false :=
    fun target htarget ↦ Path.hasNul_anchor (by decide)
      (by rw [List.mem_singleton.mp htarget]; decide)
  have hopen : ∀ target ∈ plan.targets, target.mode = .truncate →
      target.Openable state.session.cwd state.host := by
    intro target htarget _
    rw [List.mem_singleton.mp htarget]
    exact Redirection.Target.openable_iff.mpr
      ⟨by decide +kernel, ["w", "out"], FileTree.locate_eq_ok_iff.mpr (by decide +kernel),
        by decide⟩
  have hresolve : shell.resolve state "ls" = .external "/bin/ls" := by decide +kernel
  refine ⟨hnul, hopen, ?_⟩
  rw [← hresolve]
  exact (shell.dispatch_and_type_follow_resolve plan state hnul hopen).1 "ls" ["-l"]

/-- A NUL character in the path of a target leaves a name that stands for nothing without a
result. -/
theorem exists_dispatch_eq_hasNul {command : Command} {state : State} {target : Redirection.Target}
    (hresolve : shell.resolve state command.name = .notFound)
    (hstdout : command.plan.stdout = some target)
    (hprepare : (command.plan.prepare state.session.cwd state.host).1 = .ok ())
    (hnul : Path.hasNul (Path.anchor state.session.cwd target.path) = true) :
    ∃ after, shell.dispatch command state = .error .hasNul after := by
  rw [← shell.resolve_prepared command.plan] at hresolve
  have hperform := perform_of_notFound (shell.execWithin maxNesting) hresolve state.session.cwd
  have hdeliver : ∀ result middle,
      deliverAll (.ofResult result) command.plan state.session.cwd middle
        = .error .hasNul middle := by
    intro result middle
    change (deliver .stdout _ command.plan.stdout _ >>= _) middle = _
    rw [hstdout, Action.bind_apply, deliver_some, Action.get_bind_apply,
      Redirection.writeTarget_eq_hasNul_iff.mpr hnul]
    rfl
  refine ⟨prepared command.plan state, ?_⟩
  rw [dispatch, dispatchWith_apply_of_prepared _ _ _ hprepare, Action.bind_apply, hperform]
  dsimp only
  rw [Action.bind_apply, hdeliver]

/-- Where a NUL character comes in from the working directory, a name that stands for nothing has
no result; and without names `type` gives no verdicts but complains, with another exit code. -/
theorem nul_stops_delivery_and_type_misused :
    let shell : Shell := { launcher := fun host _ ↦ (.ok {}, host) }
    let state : State := { session := { cwd := "a\x00b", home := "/" } }
    let plan : Redirection.Plan := { stdout := some ⟨"f", .append⟩ }
    (∀ target ∈ plan.targets, Path.hasNul target.path = false ∧ target.mode ≠ .truncate) ∧
    shell.resolve state "nope" = .notFound ∧
    (∃ after, shell.dispatch ⟨"nope", [], plan⟩ state = .error .hasNul after) ∧
    ∃ after, shell.dispatch ⟨"type", [], {}⟩ state =
      .ok { stdout := "type: missing operand\n", exitCode := 2 } after := by
  intro shell state plan
  have hresolve : shell.resolve state "nope" = .notFound := by decide +kernel
  refine ⟨?_, hresolve, ?_, _, rfl⟩
  · intro target htarget
    rw [List.mem_singleton.mp htarget]
    decide
  · have hcommand : shell.resolve state (Command.mk "nope" [] plan).name = .notFound := hresolve
    exact shell.exists_dispatch_eq_hasNul hcommand rfl rfl (by decide +kernel)

end Shell

end LineShell
