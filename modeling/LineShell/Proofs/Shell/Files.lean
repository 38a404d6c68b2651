import LineShell.Proofs.Shell.Performing

/-!
# What redirection does to files

A target is opened up to twice, before the command and after it, and in between the command may move
the working directory that its path is seen from. What comes of all this is simple: the file of each
target holds what it held if the target is appended to, and then the bytes that the command handed
over for that stream; and nothing else in the file tree changes.

Two observations carry the proof. The path of a target is made absolute from the directory that the
session had before the command, so it does not matter where the command went
(`Redirection.Plan.LeadsApart.of_becomes`). And opening a file to empty it beforehand does not show,
since what is emptied is filled from the start (`Redirection.Plan.LeadsApart.receives_of_prepare`).
-/

namespace LineShell

open Redirection (Target Plan)

/-- The bytes that a performed command hands over for a stream. -/
def Performed.bytes (performed : Performed) (stream : Stream) : Bytes :=
  (performed.output stream).elim [] Output.toBytes

/-- Whether the outcome of a launch is one of a launcher that does what it is asked for: a program
that ran comes with the bytes of every captured stream, and a request is not refused. -/
def Launch.AnsweredBy (launch : Launch) : Except LaunchError Finished → Prop
  | .ok finished =>
    ∀ stream, launch.stdio.captures stream = true → (finished.captured stream).isSome = true
  | .error (.notStarted _) => True
  | .error _ => False

theorem Launch.AnsweredBy.attempted {launch : Launch} {outcome : Except LaunchError Finished}
    (h : launch.AnsweredBy outcome) : Launch.Attempted outcome := by
  cases outcome with
  | ok finished => trivial
  | error e => cases e <;> exact h

namespace Shell

variable {shell : Shell} {nested : String → Action CommandResult} {command : Command}
  {plan : Plan} {performed : Performed} {cwd : String} {place : Stream → Place}

/-! ## Performing -/

/-- What is handed over for the streams of a command is the text of its result or, if a program
ran, what was captured. -/
def HandsOver (shell : Shell) (command : Command) (cwd : String) (state : State)
    (performed : Performed) : Prop :=
  (∀ stream, performed.bytes stream = Utf8.encode (performed.result.text stream)) ∨
  ∃ path finished, shell.resolve state command.name = .external path ∧
    (shell.launcher state.host (launchFor command path cwd)).1 = .ok finished ∧
    performed.result = { exitCode := finished.exitCode } ∧
    ∀ stream, (command.plan.target? stream).isSome = true →
      finished.captured stream = some (performed.bytes stream)

/-- A command is performed without a fault and hands over something for every target. -/
theorem exists_perform_eq_ok {state : State}
    (hlauncher : ∀ path, shell.resolve state command.name = .external path →
      (launchFor command path cwd).AnsweredBy
        (shell.launcher state.host (launchFor command path cwd)).1) :
    ∃ performed after, shell.perform nested command cwd state = .ok performed after ∧
      shell.HandsOver command cwd state performed ∧
      ∀ stream, (command.plan.target? stream).isSome = true →
        (performed.output stream).isSome = true := by
  obtain ⟨performed, after, hperform⟩ : ∃ performed after,
      shell.perform nested command cwd state = .ok performed after :=
    exists_perform_of_attempted nested fun path hpath ↦ (hlauncher path hpath).attempted
  refine ⟨performed, after, hperform, ?_⟩
  cases performs_of_perform nested hperform with
  | called | notStarted | notFound => exact ⟨Or.inl fun _ ↦ rfl, fun _ _ ↦ rfl⟩
  | @finished path finished hresolve houtcome =>
    have hanswer := hlauncher path hresolve
    rw [houtcome] at hanswer
    have hcaptured : ∀ stream, (command.plan.target? stream).isSome = true →
        ∃ captured, finished.captured stream = some captured ∧
          (Performed.ofFinished finished command.plan).output stream = some (.bytes captured) := by
      intro stream htarget
      obtain ⟨captured, hcaptured⟩ := Option.isSome_iff_exists.mp
        (hanswer stream (by rw [launchFor, Plan.captures_stdio, htarget]))
      refine ⟨captured, hcaptured, ?_⟩
      rw [Performed.output_ofFinished, if_pos htarget, hcaptured]
      rfl
    refine ⟨Or.inr ⟨path, finished, hresolve, houtcome, rfl, ?_⟩, ?_⟩
    · intro stream htarget
      obtain ⟨captured, hcaptured, houtput⟩ := hcaptured stream htarget
      rw [Performed.bytes, houtput, hcaptured]
      rfl
    · intro stream htarget
      obtain ⟨captured, -, houtput⟩ := hcaptured stream htarget
      rw [houtput]
      rfl

/-- A direct command leaves the files alone, in particular each one that every shell knows. -/
theorem keeps_tree_perform {handler : Handler}
    (hfind : shell.commands.find? command.name = some handler)
    (hdirect : (handler command.args).Direct) :
    Action.Keeps (fun state ↦ state.host.tree) (shell.perform nested command cwd) :=
  keeps_perform_of_direct nested hfind hdirect (fun _ _ ↦ rfl) (fun _ _ ↦ rfl)
    (Action.keeps_chdir fun _ _ _ ↦ rfl) cwd

/-! ## Delivering -/

/-- Delivering a stream fills the file of its target, if it has one. -/
theorem exists_deliverOutput {stream : Stream} {state : State} {p : Place}
    (hplace : ∀ target, plan.target? stream = some target → target.LeadsTo cwd state.host p)
    (houtput : (plan.target? stream).isSome = true → (performed.output stream).isSome = true) :
    ∃ after, deliverOutput performed plan cwd stream state = .ok () after ∧
      state.host.Becomes after.host ∧
      (∀ target, plan.target? stream = some target →
        target.Receives (performed.bytes stream) p state.host.tree after.host.tree) ∧
      ∀ other, ((plan.target? stream).isSome = true → other ≠ p) →
        after.host.tree.node? other = state.host.tree.node? other := by
  rw [deliverOutput, Performed.bytes]
  cases htarget : plan.target? stream with
  | none =>
    cases performed.output stream with
    | none => exact ⟨state, rfl, .refl _, by rintro _ ⟨⟩, fun _ _ ↦ rfl⟩
    | some output =>
      dsimp only
      rw [deliver_none]
      exact ⟨_, rfl, .refl _, by rintro _ ⟨⟩, fun _ _ ↦ rfl⟩
  | some target =>
    obtain ⟨output, houtput⟩ := Option.isSome_iff_exists.mp (houtput (by rw [htarget]; rfl))
    rw [houtput]
    obtain ⟨tree, hwrite, hreceives, hframe⟩ :=
      (hplace target htarget).exists_writeTarget output.toBytes
    refine ⟨{ state with host := { state.host with tree } }, ?_,
      Redirection.becomes_of_writeTarget hwrite, ?_, fun other hother ↦ ?_⟩
    · dsimp only
      rw [deliver_some, Action.get_bind_apply, hwrite]
      rfl
    · intro other hother
      rw [← Option.some.inj hother]
      exact hreceives
    · exact hframe other (hother rfl)

/-- Delivering both streams fills the files of their targets, since neither disturbs the other. -/
theorem exists_deliverAll {state : State} (habsolute : Path.isAbsolute cwd = true)
    (h : plan.LeadsApart cwd state.host place)
    (houtput : ∀ stream, (plan.target? stream).isSome = true →
      (performed.output stream).isSome = true) :
    ∃ after, deliverAll performed plan cwd state = .ok () after ∧
      (∀ stream target, plan.target? stream = some target →
        target.Receives (performed.bytes stream) (place stream) state.host.tree after.host.tree) ∧
      ∀ other, (∀ stream, (plan.target? stream).isSome = true → other ≠ place stream) →
        after.host.tree.node? other = state.host.tree.node? other := by
  obtain ⟨middle, hmiddle, hbecomes, hstdout, hframe⟩ :=
    exists_deliverOutput (h.leadsTo .stdout) (houtput .stdout)
  obtain ⟨after, hafter, -, hstderr, hframe'⟩ :=
    exists_deliverOutput ((h.of_becomes habsolute hbecomes.tree).leadsTo .stderr) (houtput .stderr)
  refine ⟨after, ?_, fun stream target htarget ↦ ?_, fun other hother ↦ ?_⟩
  · rw [deliverAll, Action.bind_apply, hmiddle]
    exact hafter
  · have hpresent : (plan.target? stream).isSome = true := by rw [htarget]; rfl
    -- The second delivery leaves the place of the first alone, and the first that of the second.
    cases stream with
    | stdout =>
      have hsame := hframe' (place .stdout) (h.place_ne .stdout .stderr (by decide) hpresent)
      exact hsame.trans (hstdout target htarget)
    | stderr =>
      have hsame := hframe (place .stderr)
        fun hother ↦ h.place_ne .stderr .stdout (by decide) hpresent hother
      have hreceives := hstderr target htarget
      rw [Target.Receives, FileTree.contents, FileTree.executableAt, hsame] at hreceives
      exact hreceives
  · exact (hframe' other (hother .stderr)).trans (hframe other (hother .stdout))

/-! ## The whole dispatch -/

/-- **Exact effect of redirection.** Dispatching a command whose targets lead to regular files, and
not to the same one, gives the command a result. The file of each target then holds what the target
lets it keep and the bytes of its stream; it was created if it was missing; and nothing else in the
file tree is changed by redirecting. The command may move the working directory meanwhile. -/
theorem dispatch_fills_targets (shell : Shell) (command : Command) (state : State)
    (place : Stream → Place) (habsolute : Path.isAbsolute state.session.cwd = true)
    (hplan : command.plan.LeadsApart state.session.cwd state.host place)
    (hlauncher : ∀ path, shell.resolve state command.name = .external path →
      (launchFor command path state.session.cwd).AnsweredBy
        (shell.launcher (prepared command.plan state).host
          (launchFor command path state.session.cwd)).1)
    (hfiles : ((shell.perform (shell.execWithin maxNesting) command state.session.cwd).finalState
      (prepared command.plan state)).host.tree = (prepared command.plan state).host.tree) :
    ∃ performed middle after,
      shell.perform (shell.execWithin maxNesting) command state.session.cwd
        (prepared command.plan state) = .ok performed middle ∧
      shell.HandsOver command state.session.cwd (prepared command.plan state) performed ∧
      shell.dispatch command state = .ok performed.result after ∧
      (∀ stream target, command.plan.target? stream = some target →
        after.host.tree.node? (place stream) = some (.file
          (FileTree.written target.mode (state.host.tree.contents (place stream))
            (performed.bytes stream))
          (state.host.tree.executableAt (place stream)))) ∧
      ∀ other, (∀ stream, (command.plan.target? stream).isSome = true → other ≠ place stream) →
        after.host.tree.node? other = state.host.tree.node? other := by
  have hprepare := hplan.prepare_eq_ok
  have hresolve := shell.resolve_prepared command.plan state command.name
  obtain ⟨performed, middle, hperform, houtput, hpresent⟩ : ∃ performed middle,
      shell.perform (shell.execWithin maxNesting) command state.session.cwd
        (prepared command.plan state) = .ok performed middle ∧ _ ∧ _ :=
    exists_perform_eq_ok fun path hpath ↦ hlauncher path (hresolve.symm.trans hpath)
  rw [Action.finalState_of_ok hperform] at hfiles
  have hbecomes : state.host.tree.Becomes middle.host.tree := by
    rw [hfiles]
    exact (Redirection.becomes_prepareTargets _ _ _).tree
  -- The working directories may be others by now, but the targets still lead to their places.
  obtain ⟨after, hdeliver, hreceives, hframe⟩ :=
    exists_deliverAll habsolute (hplan.of_becomes habsolute hbecomes) hpresent
  refine ⟨performed, middle, after, hperform, houtput,
    dispatchWith_of_perform _ hprepare hperform hdeliver, fun stream target htarget ↦ ?_,
    fun other hother ↦ ?_⟩
  · have hreceived := hreceives stream target htarget
    rw [hfiles] at hreceived
    exact hplan.receives_of_prepare habsolute htarget hreceived
  · rw [hframe other hother, hfiles]
    exact hplan.node?_prepare habsolute fun stream target htarget _ ↦
      hother stream (by rw [htarget]; rfl)

/-- A command that moves the working directory writes where the shell was before. -/
theorem cd_fills_target_where_it_started :
    let shell : Shell := { launcher := fun host _ ↦ (.ok {}, host) }
    let state : State := {
      session := { cwd := "/w", home := "/" }
      host := { tree := ⟨[(["w"], .directory), (["w", "d"], .directory)]⟩ } }
    let command : Command := ⟨"cd", ["d"], { stdout := some ⟨"log", .truncate⟩ }⟩
    let place : Stream → Place := fun _ ↦ ["w", "log"]
    let performing := shell.perform (shell.execWithin maxNesting) command state.session.cwd
    command.plan.LeadsApart state.session.cwd state.host place ∧
    (performing.finalState (prepared command.plan state)).session.cwd = "/w/d" ∧
    (performing.finalState (prepared command.plan state)).host.tree
      = (prepared command.plan state).host.tree ∧
    ∃ after, shell.dispatch command state = .ok {} after ∧
      after.host.tree.node? ["w", "log"] = some (.file [] false) := by
  intro shell state command place performing
  have hplan : command.plan.LeadsApart state.session.cwd state.host place := {
    leadsTo := by
      rintro (_ | _) target htarget
      · rw [← Option.some.inj htarget]
        exact ⟨by decide +kernel, FileTree.locate_eq_ok_iff.mpr (by decide +kernel), rfl, nofun⟩
      · contradiction
    place_ne := by
      rintro (_ | _) (_ | _) hne hstream hother
      · contradiction
      · exact Bool.noConfusion hother
      · exact Bool.noConfusion hstream
      · contradiction }
  have hresolve : shell.resolve state command.name = .builtin := by decide +kernel
  have hmoved : (performing.finalState (prepared command.plan state)).session.cwd = "/w/d" := by
    decide +kernel
  have hfiles : (performing.finalState (prepared command.plan state)).host.tree
      = (prepared command.plan state).host.tree :=
    keeps_tree_perform rfl (Builtin.direct_cd ["d"]) _
  have hresult : (match performing (prepared command.plan state) with
      | .ok performed _ => some performed.result
      | .error _ _ => none) = some {} := by decide +kernel
  obtain ⟨performed, middle, after, hperform, houtput, hdispatch, hwritten, -⟩ :=
    shell.dispatch_fills_targets command state place (by decide) hplan
      (fun path hpath ↦ Resolution.noConfusion (hresolve.symm.trans hpath)) hfiles
  rw [show performing (prepared command.plan state) = .ok performed middle from hperform,
    Option.some.injEq] at hresult
  rw [hresult] at hdispatch
  refine ⟨hplan, hmoved, hfiles, after, hdispatch, ?_⟩
  rcases houtput with hbytes | ⟨path, finished, hpath, -⟩
  · have hfile := hwritten .stdout _ rfl
    rw [hbytes, hresult] at hfile
    exact hfile
  · rw [shell.resolve_prepared, hresolve] at hpath
    contradiction

end Shell

end LineShell
