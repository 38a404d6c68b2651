import LineShell.Proofs.Shell.Course

/-!
# Refused targets

A command with a target that is to be emptied and cannot be opened is not carried out. The shell
tells of the first such target, the standard output before the standard error, and leaves everything
else as it is, with one exception: if it is the target of the standard error that cannot be opened,
the one of the standard output was opened before it (`Shell.dispatch_refuses`).

Which target is refused can be told from the host as it is before, since opening one file neither
opens nor closes another (`Redirection.openable_iff_of_becomes`). The reason cannot: below a place
where nothing stood there may stand a file by then.
-/

namespace LineShell

namespace Redirection

/-! ## Refused plans -/

/-- Whether a plan is refused for the target of a stream, and for which reason, with the file tree
as it is left then. -/
structure Plan.RefusedFor (plan : Plan) (stream : Stream) (target : Target) (cwd : String)
    (host : Host) (reason : FileError) (tree : FileTree) : Prop where
  target?_eq : plan.target? stream = some target
  mode_eq : target.mode = .truncate
  not_openable : ¬target.Openable cwd host
  /-- The target of the standard output comes first. -/
  opened : stream = .stderr → ∀ other, plan.stdout = some other → other.mode = .truncate →
    host.write .truncate (Path.anchor cwd other.path) [] = .ok { host with tree }
  write_eq : { host with tree }.write .truncate (Path.anchor cwd target.path) []
    = .error (.file reason)
  /-- At most the target of the standard output was created or emptied. -/
  tree_eq : tree = host.tree ∨ stream = .stderr ∧ ∃ emptied place,
    plan.stdout = some emptied ∧ emptied.mode = .truncate ∧
    host.tree.locate host.cwd (Path.anchor cwd emptied.path) .create = .ok place ∧
    tree = host.tree.put place (.file [] (host.tree.executableAt place))

/-- A target that is appended to is not touched. -/
theorem Plan.RefusedFor.tree_eq_of_append {plan : Plan} {stream : Stream} {target appended : Target}
    {cwd : String} {host : Host} {reason : FileError} {tree : FileTree}
    (h : plan.RefusedFor stream target cwd host reason tree) (happended : appended ∈ plan.targets)
    (hmode : appended.mode = .append) : tree = host.tree := by
  rcases h.tree_eq with htree | ⟨rfl, emptied, place, hstdout, htruncate, -⟩
  · exact htree
  · -- Both targets of the plan are to be emptied then.
    obtain ⟨stream, hstream⟩ := mem_targets_iff.mp happended
    cases stream with
    | stdout =>
      rw [Option.some.inj (hstdout.symm.trans hstream), hmode] at htruncate
      contradiction
    | stderr =>
      have htarget := h.mode_eq
      rw [Option.some.inj (h.target?_eq.symm.trans hstream), hmode] at htarget
      contradiction

/-- A target of a plan has no target before it but that of the standard output. -/
theorem Plan.eq_of_targets_eq {plan : Plan} {earlier later : List Target} {target : Target}
    (h : plan.targets = earlier ++ target :: later) :
    (plan.stdout = some target ∧ earlier = []) ∨
      (plan.stderr = some target ∧ earlier = plan.stdout.toList) := by
  rcases plan with ⟨_ | stdout, _ | stderr⟩ <;> rcases earlier with _ | ⟨first, _ | ⟨_, _⟩⟩ <;>
    simp_all [Plan.targets]

/-- Preparing at most one target is opening it, or doing nothing. -/
theorem write_of_prepareTargets_toList {target? : Option Target} {cwd : String} {host after : Host}
    (h : prepareTargets cwd target?.toList host = (.ok (), after)) :
    (after = host ∧ ∀ target, target? = some target → target.mode = .append) ∨
      ∃ target, target? = some target ∧ target.mode = .truncate ∧
        host.write .truncate (Path.anchor cwd target.path) [] = .ok after := by
  cases target? with
  | none => exact Or.inl ⟨(congrArg Prod.snd h).symm, nofun⟩
  | some target =>
    rw [Option.toList_some, prepareTargets_cons] at h
    cases hmode : target.mode with
    | append =>
      rw [hmode] at h
      refine Or.inl ⟨(congrArg Prod.snd h).symm, fun other hother ↦ ?_⟩
      rw [← Option.some.inj hother, hmode]
    | truncate =>
      rw [hmode] at h
      cases hopened : writeTarget target [] cwd host with
      | error e =>
        rw [hopened] at h
        exact nomatch congrArg Prod.fst h
      | ok opened =>
        rw [hopened] at h
        obtain rfl : opened = after := congrArg Prod.snd h
        rw [writeTarget_eq_ok_iff, hmode] at hopened
        exact Or.inr ⟨target, rfl, hmode, hopened⟩

/-- Directories are not written to. -/
theorem not_openable_of_directory {target : Target} {cwd : String} {host : Host}
    (h : (host.tree.locate host.cwd (Path.anchor cwd target.path) .create).toOption.bind
      host.tree.node? = some .directory) : ¬target.Openable cwd host := by
  intro hopen
  obtain ⟨-, place, hplace, haccepts⟩ := Target.openable_iff.mp hopen
  rw [FileTree.locate_eq_ok_iff.mp hplace, Option.bind_some] at h
  rw [h] at haccepts
  contradiction

/-- A target that leads nowhere cannot be opened. -/
theorem not_openable_of_nowhere {target : Target} {cwd : String} {host : Host}
    (h : (host.tree.locate host.cwd (Path.anchor cwd target.path) .create).toOption = none) :
    ¬target.Openable cwd host := by
  intro hopen
  obtain ⟨-, place, hplace, -⟩ := Target.openable_iff.mp hopen
  rw [FileTree.locate_eq_ok_iff, h] at hplace
  contradiction

/-- **A plan is refused** for its first target to be emptied that cannot be opened. -/
theorem Plan.exists_refusedFor {plan : Plan} {cwd : String} {host : Host}
    (hnul : ∀ target ∈ plan.targets, target.mode = .truncate →
      Path.hasNul (Path.anchor cwd target.path) = false)
    (hclosed : ∃ target ∈ plan.targets, target.mode = .truncate ∧ ¬target.Openable cwd host) :
    ∃ stream target reason,
      (plan.prepare cwd host).1 = .error (.refused target.path reason) ∧
      plan.RefusedFor stream target cwd host reason (plan.prepare cwd host).2.tree := by
  have hbecomes : host.Becomes (plan.prepare cwd host).2 := becomes_prepareTargets _ _ _
  obtain ⟨e, hprepare⟩ : ∃ e, (plan.prepare cwd host).1 = .error e := by
    cases hprepare : (plan.prepare cwd host).1 with
    | error e => exact ⟨e, rfl⟩
    | ok =>
      obtain ⟨target, htarget, hmode, hclosed⟩ := hclosed
      exact absurd (prepareTargets_eq_ok_iff.mp hprepare target htarget hmode) hclosed
  have hstops : prepareTargets cwd plan.targets host = (.error e, (plan.prepare cwd host).2) :=
    Prod.ext hprepare rfl
  obtain ⟨earlier, target, later, htargets, hmode, hearlier, hwrite⟩ :=
    exists_of_prepareTargets_eq_error hstops
  obtain ⟨reason, rfl, hwritten⟩ : ∃ reason, e = .refused target.path reason ∧
      (plan.prepare cwd host).2.write target.mode (Path.anchor cwd target.path) []
        = .error (.file reason) := by
    cases e with
    | hasNul => exact absurd hprepare (prepare_ne_hasNul hnul)
    | refused path reason =>
      obtain ⟨rfl, hwritten⟩ := writeTarget_eq_refused_iff.mp hwrite
      exact ⟨reason, rfl, hwritten⟩
  -- The target was refused after an earlier one was opened, but it was no better before.
  have hnot : ¬target.Openable cwd host := by
    rw [← openable_iff_of_becomes hbecomes]
    rintro ⟨opened, hopened⟩
    exact nomatch hwrite.symm.trans hopened
  have hafter : (plan.prepare cwd host).2
      = { host with tree := (plan.prepare cwd host).2.tree } := by
    obtain ⟨tree, -, htree⟩ := hbecomes
    rw [htree]
  rw [hmode, hafter] at hwritten
  rcases Plan.eq_of_targets_eq htargets with ⟨hstdout, rfl⟩ | ⟨hstderr, rfl⟩
  · have hsame : host = (plan.prepare cwd host).2 := congrArg Prod.snd hearlier
    refine ⟨.stdout, target, reason, hprepare, hstdout, hmode, hnot, nofun, hwritten, Or.inl ?_⟩
    rw [← hsame]
  · rcases write_of_prepareTargets_toList hearlier with
      ⟨hsame, happend⟩ | ⟨emptied, hstdout, htruncate, hopened⟩
    · refine ⟨.stderr, target, reason, hprepare, hstderr, hmode, hnot, ?_, hwritten,
        Or.inl (congrArg Host.tree hsame)⟩
      intro _ other hother hothermode
      rw [happend other hother] at hothermode
      contradiction
    · refine ⟨.stderr, target, reason, hprepare, hstderr, hmode, hnot, ?_, hwritten, ?_⟩
      · intro _ other hother _
        obtain rfl := Option.some.inj (hstdout.symm.trans hother)
        rw [← hafter]
        exact hopened
      · obtain ⟨-, tree, htree, hput⟩ := Host.write_eq_ok_iff.mp hopened
        rw [hput]
        rcases FileTree.eq_or_eq_put_of_write htree with rfl | ⟨place, hplace, -, rfl⟩
        · exact Or.inl rfl
        · exact Or.inr ⟨rfl, emptied, place, hstdout, htruncate, hplace, rfl⟩

end Redirection

/-! ## Refused commands -/

namespace Shell

open Redirection (Target)

/-- **A refused target leaves everything else alone.** If a target of a command that is to be
emptied cannot be opened, dispatching the command tells of the first such target and gives exit
code 1. The session, what the shell was asked and what was started are as before, and so are the
host and the file tree but for a target of the standard output that was opened first. -/
theorem dispatch_refuses (shell : Shell) (command : Command) (state : State)
    (hnul : ∀ target ∈ command.plan.targets, target.mode = .truncate →
      Path.hasNul (Path.anchor state.session.cwd target.path) = false)
    (hclosed : ∃ target ∈ command.plan.targets, target.mode = .truncate ∧
      ¬target.Openable state.session.cwd state.host) :
    ∃ stream target e tree,
      command.plan.RefusedFor stream target state.session.cwd state.host e tree ∧
      ((∃ appended ∈ command.plan.targets, appended.mode = .append) → tree = state.host.tree) ∧
      let message := "minish: " ++ (target.path ++ ": " ++ e.reason) ++ "\n"
      shell.dispatch command state = .ok { stderr := message, exitCode := 1 }
        { state with
          host := { state.host with tree }
          terminal := { state.terminal with stderr := state.terminal.stderr ++ message } } := by
  obtain ⟨stream, target, e, hprepare, hrefused⟩ :=
    Redirection.Plan.exists_refusedFor hnul hclosed
  refine ⟨stream, target, e, _, hrefused, ?_, ?_⟩
  · rintro ⟨appended, happended, hmode⟩
    exact hrefused.tree_eq_of_append happended hmode
  · obtain ⟨tree, -, hhost⟩ : state.host.Becomes (command.plan.prepare state.session.cwd
        state.host).2 := Redirection.becomes_prepareTargets _ _ _
    rw [dispatch, dispatchWith_apply_of_refused hprepare, prepared, hhost]
    rfl

/-- A command that is refused for the target of its standard error does not stop the shell, but the
file for its standard output is emptied. -/
theorem exit_is_refused :
    let shell : Shell := { launcher := fun host _ ↦ (.ok {}, host) }
    let state : State := {
      session := { cwd := "/w", home := "/" }
      host := { tree := ⟨[(["w"], .directory), (["w", "f"], .file [1] false)]⟩ } }
    let command : Command :=
      ⟨"exit", ["3"], { stdout := some ⟨"f", .truncate⟩, stderr := some ⟨"/w", .truncate⟩ }⟩
    (∀ target ∈ command.plan.targets, target.mode = .truncate →
      Path.hasNul (Path.anchor state.session.cwd target.path) = false) ∧
    (∃ target ∈ command.plan.targets, target.mode = .truncate ∧
      ¬target.Openable state.session.cwd state.host) ∧
    ∃ result after, shell.dispatch command state = .ok result after ∧ result.exitCode = 1 ∧
      after.exitStatus = none ∧ after.journal = [] ∧
      after.host.tree.node? ["w", "f"] = some (.file [] false) := by
  intro shell state command
  have hnul : ∀ target ∈ command.plan.targets, target.mode = .truncate →
      Path.hasNul (Path.anchor state.session.cwd target.path) = false := by
    intro target htarget _
    rcases List.mem_pair.mp htarget with rfl | rfl <;> decide +kernel
  have hclosed : ∃ target ∈ command.plan.targets, target.mode = .truncate ∧
      ¬target.Openable state.session.cwd state.host :=
    ⟨⟨"/w", .truncate⟩, List.mem_pair.mpr (Or.inr rfl), rfl,
      Redirection.not_openable_of_directory (by decide +kernel)⟩
  obtain ⟨stream, target, e, tree, -, -, hdispatch⟩ :=
    shell.dispatch_refuses command state hnul hclosed
  have hemptied : ((shell.dispatch command).finalState state).host.tree.node? ["w", "f"]
      = some (.file [] false) := by decide +kernel
  rw [Action.finalState_of_ok hdispatch] at hemptied
  exact ⟨hnul, hclosed, _, _, hdispatch, rfl, rfl, rfl, hemptied⟩

/-- A NUL character that comes in from the working directory stops a command before the target that
cannot be opened is told of. -/
theorem nul_stops_refusing :
    let shell : Shell := { launcher := fun host _ ↦ (.ok {}, host) }
    let state : State := { session := { cwd := "a\x00b", home := "/" } }
    let command : Command :=
      ⟨"echo", ["hi"], { stdout := some ⟨"f", .truncate⟩, stderr := some ⟨"/", .truncate⟩ }⟩
    (∀ target ∈ command.plan.targets, Path.hasNul target.path = false) ∧
    (∃ target ∈ command.plan.targets, target.mode = .truncate ∧
      ¬target.Openable state.session.cwd state.host) ∧
    ∃ after, shell.dispatch command state = .error .hasNul after ∧
      after.terminal = state.terminal := by
  intro shell state command
  have hpaths : ∀ target ∈ command.plan.targets, Path.hasNul target.path = false := by
    intro target htarget
    rcases List.mem_pair.mp htarget with rfl | rfl <;> decide
  have hclosed : ∃ target ∈ command.plan.targets, target.mode = .truncate ∧
      ¬target.Openable state.session.cwd state.host :=
    ⟨⟨"/", .truncate⟩, List.mem_pair.mpr (Or.inr rfl), rfl,
      Redirection.not_openable_of_directory (by decide +kernel)⟩
  have hprepare : (command.plan.prepare state.session.cwd state.host).1 = .error .hasNul := by
    decide +kernel
  exact ⟨hpaths, hclosed, _, dispatchWith_apply_of_hasNul hprepare, rfl⟩

end Shell

end LineShell
