import LineShell.Proofs.Machine.Launching
import LineShell.Proofs.Shell.Entering

/-!
# The working directory of a session

What `cd` does is known from the state before it. Everything else that a shell does leaves the
working directories of session and process where they are, unless it executes text that calls `cd`;
and whether that happened is to be seen in the journal (`State.Passes`).

So the working directory of a session is an absolute path in normal form at every moment of a run
if it was one at the start. It is not enough to look at the ends of executions for this, as a
command may execute text, look at the session and go on. The moments of a run are gone through one
by one (`Shell.Follows.settled`).

Launching a program does not move the process that launches it. This is asked of the launcher, and
the launcher of a machine is such (`Machine.launcher_stationary`).
-/

namespace LineShell

/-! ## What executions do to working directories -/

/-- Whether the working directories of session and process are the same in two states, with
everything else about the session. -/
structure State.Rests (before after : State) : Prop where
  session_eq : after.session = before.session
  cwd_eq : after.host.cwd = before.host.cwd

theorem State.admitsOutput_rests : State.AdmitsOutput State.Rests where
  refl := fun _ ↦ ⟨rfl, rfl⟩
  trans := fun h h' ↦ ⟨h'.session_eq.trans h.session_eq, h'.cwd_eq.trans h.cwd_eq⟩
  terminal := fun _ _ ↦ ⟨rfl, rfl⟩
  write := by
    rintro state host ⟨tree, -, rfl⟩
    exact ⟨rfl, rfl⟩

/-- Sessions whose working directory is absolute and in normal form and whose home is absolute. -/
structure Session.IsSettled (session : Session) : Prop where
  cwd : Path.IsSettled session.cwd
  home : Path.isAbsolute session.home = true

theorem Session.IsSettled.isRooted {session : Session} (h : session.IsSettled) :
    session.IsRooted :=
  ⟨h.cwd.isAbsolute, h.home⟩

/-- What an execution makes of the working directories of a settled session: the session stays
settled, nothing of it changes but its working directory, and that only if `cd` was called. -/
structure State.Passes (before after : State) : Prop where
  isSettled : after.session.IsSettled
  session_eq : after.session = { before.session with cwd := after.session.cwd }
  exists_journal_eq : ∃ added, after.journal = before.journal ++ added ∧
    ((∀ args, Event.called "cd" args ∉ added) → before.Rests after)

namespace State.Passes

variable {before middle after : State}

theorem of_rests (h : before.session.IsSettled) (hrests : before.Rests after) {added : List Event}
    (hjournal : after.journal = before.journal ++ added) : before.Passes after where
  isSettled := by
    rw [hrests.session_eq]
    exact h
  session_eq := by rw [hrests.session_eq]
  exists_journal_eq := ⟨added, hjournal, fun _ ↦ hrests⟩

theorem refl (h : before.session.IsSettled) : before.Passes before :=
  of_rests h ⟨rfl, rfl⟩ (List.append_nil _).symm

theorem trans (h : before.Passes middle) (h' : middle.Passes after) : before.Passes after where
  isSettled := h'.isSettled
  session_eq := by rw [h'.session_eq, h.session_eq]
  exists_journal_eq := by
    obtain ⟨first, hfirst, hrests⟩ := h.exists_journal_eq
    obtain ⟨second, hsecond, hrests'⟩ := h'.exists_journal_eq
    refine ⟨first ++ second, ?_, fun hadded ↦ ?_⟩
    · rw [hsecond, hfirst, List.append_assoc]
    · have hfirstRests := hrests fun args hmem ↦ hadded args (List.mem_append_left second hmem)
      have hsecondRests := hrests' fun args hmem ↦ hadded args (List.mem_append_right first hmem)
      exact State.admitsOutput_rests.trans hfirstRests hsecondRests

/-- A call of `cd` that is written down may enter a directory. -/
theorem entering {path : String} (h : before.session.IsSettled) (hpath : Path.IsSettled path)
    (args : List String) :
    before.Passes ((Shell.logged (.called "cd" args) before).entering path) where
  isSettled := ⟨hpath, h.home⟩
  session_eq := rfl
  exists_journal_eq := ⟨[.called "cd" args], rfl, fun hadded ↦
    absurd (List.mem_singleton_self _) (hadded args)⟩

end State.Passes

namespace Shell

variable {shell : Shell}

theorem admitsOutput_passes :
    State.AdmitsOutput fun before after ↦ before.session.IsSettled → before.Passes after where
  refl := fun _ ↦ .refl
  trans := fun h h' hsettled ↦ (h hsettled).trans (h' (h hsettled).isSettled)
  terminal := fun _ _ hsettled ↦ .of_rests hsettled ⟨rfl, rfl⟩ (List.append_nil _).symm
  write := by
    rintro state host ⟨tree, -, rfl⟩ hsettled
    exact .of_rests hsettled ⟨rfl, rfl⟩ (List.append_nil _).symm

/-- **Executions pass working directories on** in a shell that moves by `cd`. -/
theorem admits_passes (hshell : shell.MovesByCd) (hlauncher : shell.launcher.Stationary) :
    shell.Admits fun before after ↦ before.session.IsSettled → before.Passes after where
  toAdmitsOutput := admitsOutput_passes
  launch := fun state launch hsettled ↦ .of_rests hsettled ⟨rfl, hlauncher state.host launch⟩ rfl
  call := by
    intro nested hnested name handler hfind args state hsettled
    by_cases hname : name = "cd"
    · subst hname
      obtain rfl : Builtin.cd = handler := Option.some.inj (hshell.find?_cd.symm.trans hfind)
      by_cases henter : (logged (.called "cd" args) state).CanEnter
          ((logged (.called "cd" args) state).session.expand (args.headD "~"))
      · rw [Action.finalState_of_ok (shell.runProcedure_cd_of_canEnter nested "cd" henter)]
        exact .entering hsettled (Session.isSettled_expand hsettled.isRooted _) args
      · obtain ⟨message, hmessage⟩ := shell.runProcedure_cd_of_not_canEnter nested "cd" henter
        rw [Action.finalState_of_ok hmessage]
        exact .of_rests hsettled ⟨rfl, rfl⟩ rfl
    · have hstays : (handler args).Stays := hshell.stays hfind hname args
      have hlogged : state.Passes (logged (.called name args) state) :=
        .of_rests hsettled ⟨rfl, rfl⟩ rfl
      refine hlogged.trans (hstays.within admitsOutput_passes ?_ ?_ hnested name _ hsettled)
      · exact fun code state hsettled ↦ .of_rests hsettled ⟨rfl, rfl⟩ (List.append_nil _).symm
      · exact fun path hpath ↦ hpath.elim

/-! ## Single commands -/

/-- What carrying out a command does to the working directories of a session and of the process. -/
structure MovesAsTold (shell : Shell) (nested : String → Action CommandResult) (command : Command)
    (before : State) : Prop where
  /-- `cd` succeeds exactly if its targets can be prepared and it is told to go to a directory that
  stands there, one that the process may work in if it follows the session. -/
  succeeds_iff : command.name = "cd" → (shell.Succeeds nested command before ↔
    (command.plan.prepare before.session.cwd before.host).1 = .ok () ∧
      ∃ permissions, before.host.stat? (before.session.destination command.args)
          = some (.directory permissions) ∧
        (before.session.followProcess = true → permissions.search = true))
  /-- If it succeeds, the session goes there, and so does a process that the session follows. -/
  moved : command.name = "cd" → shell.Succeeds nested command before →
    let after := (shell.dispatchWith nested command).finalState before
    after.session.cwd = before.session.destination command.args ∧
    ∃ place, before.host.tree.locate before.host.cwd (before.session.destination command.args)
        = .ok place ∧
      before.host.tree.DirectoryAt place ∧
      after.host.cwd = if before.session.followProcess then place else before.host.cwd
  /-- If it fails, both stay where they are. -/
  stayed : command.name = "cd" → ¬ shell.Succeeds nested command before →
    before.Rests ((shell.dispatchWith nested command).finalState before)
  /-- The exit code, if there is one, tells which of the two is the case. -/
  exitCode_eq_zero_iff : ∀ {result after},
    shell.dispatchWith nested command before = .ok result after →
    (result.exitCode = 0 ↔ shell.Succeeds nested command before)
  /-- A command that does not call `cd`, itself or in text that it executes, leaves both where they
  are. -/
  exists_journal_eq : ∃ added,
    ((shell.dispatchWith nested command).finalState before).journal = before.journal ++ added ∧
    ((∀ args, Event.called "cd" args ∉ added) →
      before.Rests ((shell.dispatchWith nested command).finalState before))

section

variable {nested : String → Action CommandResult} {command : Command} {before : State}

theorem rests_prepared (plan : Redirection.Plan) (state : State) :
    state.Rests (prepared plan state) :=
  State.admitsOutput_rests.write state (Redirection.becomes_prepareTargets _ _ _)

/-- Delivering output moves nothing. -/
theorem rests_deliver {middle : State} {performed : Performed}
    (hprepare : (command.plan.prepare before.session.cwd before.host).1 = .ok ())
    (hperform : shell.perform nested command before.session.cwd (prepared command.plan before)
      = .ok performed middle) :
    middle.Rests ((shell.dispatchWith nested command).finalState before) := by
  have hdeliver : Action.Within State.Rests (do
      deliverAll performed command.plan before.session.cwd
      return performed.result : Action CommandResult) :=
    State.admitsOutput_rests.bind (State.admitsOutput_rests.within_deliverAll _ _ _) fun _ ↦
      State.admitsOutput_rests.refl
  rw [Action.finalState, dispatchWith_apply_of_prepared _ _ _ hprepare, ← Action.finalState,
    Action.finalState_bind, hperform]
  exact hdeliver middle

variable (hfind : shell.commands.find? command.name = some Builtin.cd)
include hfind

/-- A `cd` that fails stays. -/
theorem rests_of_not_succeeds (h : ¬ shell.Succeeds nested command before) :
    before.Rests ((shell.dispatchWith nested command).finalState before) := by
  have hprepared := rests_prepared command.plan before
  rw [succeeds_cd_iff hfind] at h
  cases hprepare : (command.plan.prepare before.session.cwd before.host).1 with
  | error e =>
    cases e with
    | hasNul =>
      rw [Action.finalState, dispatchWith_apply_of_hasNul hprepare]
      exact hprepared
    | refused path reason =>
      rw [Action.finalState_of_ok (dispatchWith_apply_of_refused hprepare)]
      exact ⟨hprepared.session_eq, hprepared.cwd_eq⟩
  | ok =>
    have hplace : ¬ (prepared command.plan before).CanEnter
        ((prepared command.plan before).session.expand (command.args.headD "~")) :=
      fun henter ↦ h ⟨hprepare, (canEnter_prepared_iff _ _ _).mp henter⟩
    obtain ⟨message, hperform⟩ := perform_cd_of_not_canEnter nested (prepared command.plan before)
      hfind before.session.cwd hplace
    have hlogged : before.Rests
        (logged (.called command.name command.args) (prepared command.plan before)) :=
      ⟨hprepared.session_eq, hprepared.cwd_eq⟩
    exact State.admitsOutput_rests.trans hlogged (rests_deliver hprepare hperform)

/-- A `cd` that succeeds goes where it is told to. -/
theorem moved_of_succeeds (h : shell.Succeeds nested command before) :
    ((shell.dispatchWith nested command).finalState before).session.cwd
      = before.session.expand (command.args.headD "~") ∧
    ∃ place, before.host.tree.locate before.host.cwd
        (before.session.expand (command.args.headD "~")) = .ok place ∧
      before.host.tree.DirectoryAt place ∧
      ((shell.dispatchWith nested command).finalState before).host.cwd
        = if before.session.followProcess then place else before.host.cwd := by
  obtain ⟨hprepare, henter⟩ := (succeeds_cd_iff hfind).mp h
  obtain ⟨place, hplace, hdirectory, -⟩ := henter.exists_cwd_eq
  have hprepared : (prepared command.plan before).CanEnter
      ((prepared command.plan before).session.expand (command.args.headD "~")) :=
    (canEnter_prepared_iff _ _ _).mpr henter
  have hrests := rests_deliver hprepare
    (perform_cd_of_canEnter nested (prepared command.plan before) hfind before.session.cwd
      hprepared)
  refine ⟨congrArg Session.cwd hrests.session_eq, place, hplace, hdirectory, ?_⟩
  -- Preparing the targets left the directory where it is.
  obtain ⟨other, hother, -, hcwd⟩ := hprepared.exists_cwd_eq
  obtain ⟨tree, htree, hhost⟩ : before.host.Becomes (prepared command.plan before).host :=
    Redirection.becomes_prepareTargets _ _ _
  have hsame : other = place := by
    rw [hhost] at hother
    exact Except.ok.inj (hother.symm.trans (htree.locate_eq_ok hplace))
  have hstill : (prepared command.plan before).host.cwd = before.host.cwd := by rw [hhost]
  rw [hsame, hstill] at hcwd
  rw [hrests.cwd_eq]
  exact hcwd

end

/-- **Commands move as they are told**, at every depth. -/
theorem movesAsTold (hshell : shell.MovesByCd) (hlauncher : shell.launcher.Stationary)
    (levels : Nat) (command : Command) {before : State} (h : before.session.IsSettled) :
    shell.MovesAsTold (shell.execWithin levels) command before := by
  have hadmits := admits_passes hshell hlauncher
  have hcd : command.name = "cd" → shell.commands.find? command.name = some Builtin.cd := by
    intro hname
    rw [hname]
    exact hshell.find?_cd
  have hdestination := Session.expand_headD h.home command.args
  refine ⟨fun hname ↦ ?_, fun hname hsucceeds ↦ ?_, fun hname hfails ↦ ?_, exitCode_eq_zero_iff, ?_⟩
  · rw [← hdestination]
    exact succeeds_cd_iff (hcd hname)
  · rw [← hdestination]
    exact moved_of_succeeds (hcd hname) hsucceeds
  · exact rests_of_not_succeeds (hcd hname) hfails
  · have hpasses := hadmits.within_dispatchWith (hadmits.within_execWithin levels) command before h
    exact hpasses.exists_journal_eq

end Shell

/-! ## Moments -/

/-- Whether an activity, if it is to run a procedure, enters only directories in normal form. -/
def Activity.IsConfined : Activity → Prop
  | .procedure _ _ remaining =>
    remaining.Confined Session.IsRooted (fun _ ↦ True) Path.IsSettled
  | .texts _ | .lines _ _ | .command _ _ => True

/-- What is known of the moments of a run that begins in a session: the session is settled and has
only moved, and so it goes on. -/
structure Moment.IsSettled (start : Session) (moment : Moment) : Prop where
  isSettled : moment.state.session.IsSettled
  session_eq : moment.state.session = { start with cwd := moment.state.session.cwd }
  isConfined : moment.activity.IsConfined

namespace Moment.IsSettled

variable {start : Session} {moment : Moment} (h : moment.IsSettled start) {activity : Activity}
  {after : State}
include h

/-- Another activity in the same session. -/
theorem of_session_eq (hsession : after.session = moment.state.session)
    (hconfined : activity.IsConfined) :
    Moment.IsSettled start ⟨activity, after⟩ where
  isSettled := by
    rw [hsession]
    exact h.isSettled
  session_eq := by
    rw [hsession]
    exact h.session_eq
  isConfined := hconfined

/-- Another activity after an execution. -/
theorem of_passes (hpasses : moment.state.Passes after) (hconfined : activity.IsConfined) :
    Moment.IsSettled start ⟨activity, after⟩ where
  isSettled := hpasses.isSettled
  session_eq := by rw [hpasses.session_eq, h.session_eq]
  isConfined := hconfined

/-- Another activity after a directory was entered. -/
theorem of_chdir {path : String} (hpath : Path.IsSettled path) {answer : Except PathError Unit}
    (hrun : Action.chdir path moment.state = .ok answer after)
    (hconfined : activity.IsConfined) :
    Moment.IsSettled start ⟨activity, after⟩ := by
  cases henter : moment.state.enter path with
  | error e =>
    rw [Action.chdir_of_enter_eq_error henter] at hrun
    obtain ⟨-, rfl⟩ := EStateM.Result.ok.inj hrun
    exact h.of_session_eq rfl hconfined
  | ok entered =>
    rw [Action.chdir_of_enter_eq_ok henter] at hrun
    obtain ⟨-, rfl⟩ := EStateM.Result.ok.inj hrun
    obtain ⟨here, rfl⟩ := State.exists_of_enter henter
    refine ⟨⟨hpath, h.isSettled.home⟩, ?_, hconfined⟩
    change { moment.state.session with cwd := path } = { start with cwd := path }
    rw [h.session_eq]

end Moment.IsSettled

namespace Shell

section

variable {shell : Shell} (hshell : shell.MovesByCd) (hlauncher : shell.launcher.Stationary)
  {start : Session}
include hshell hlauncher

/-- What follows a settled moment is settled, by cases on how it follows. -/
theorem Follows.settled {moment next : Moment} (h : shell.Follows moment next)
    (hmoment : moment.IsSettled start) : next.IsSettled start := by
  have hadmits := admits_passes hshell hlauncher
  have hsettled := hmoment.isSettled
  have hconfined := hmoment.isConfined
  cases h with
  | text | blank | line | nested => exact hmoment.of_session_eq rfl trivial
  | nextText => exact hmoment.of_passes (hadmits.within_exec _ _ hsettled) trivial
  | @nextLine levels text rest state after command result _ _ hrun =>
    have hpasses := hadmits.within_dispatchWith (hadmits.within_execWithin levels) command state
      hsettled
    rw [Action.finalState_of_ok hrun] at hpasses
    exact hmoment.of_passes hpasses trivial
  | @call levels command handler state _ hfind =>
    exact hmoment.of_session_eq rfl (hshell.confined hfind command.args)
  | requestExit =>
    cases hconfined with
    | requestExit code hnext => exact hmoment.of_session_eq rfl hnext
  | @answered levels name text next state after answer hrun =>
    cases hconfined with
    | exec text hnext =>
      have hpasses := (hadmits.within_execWithin levels text).attempt state hsettled
      rw [Action.finalState_of_ok hrun] at hpasses
      exact hmoment.of_passes hpasses (hnext answer)
  | session =>
    cases hconfined with
    | session hnext => exact hmoment.of_session_eq rfl (hnext _ hsettled.isRooted)
  | resolve =>
    cases hconfined with
    | resolve name hnext => exact hmoment.of_session_eq rfl (hnext _)
  | stat =>
    cases hconfined with
    | stat _ hnext => exact hmoment.of_session_eq rfl (hnext _)
  | chdir hrun =>
    cases hconfined with
    | chdir hpath hnext => exact hmoment.of_chdir hpath hrun (hnext _)

/-- Every moment of a run is settled, by induction on how it comes up. -/
theorem Leads.settled {moment next : Moment} (h : shell.Leads moment next)
    (hmoment : moment.IsSettled start) : next.IsSettled start := by
  induction h with
  | refl => exact hmoment
  | tail _ hfollows ih => exact hfollows.settled hshell hlauncher ih

end

/-- **The working directory of a session.** Let texts be executed one after the other, beginning in
a session whose working directory is absolute and in normal form and whose home is absolute, by a
shell none of whose commands but `cd` enters a directory by itself. At every moment of the run,
before, between and during the commands, the working directory is absolute and in normal form, and
nothing else of the session has changed. Every command moves as it is told
(`Shell.MovesAsTold`). -/
theorem settled_and_movesAsTold_of_leads (shell : Shell) (hshell : shell.MovesByCd)
    (hlauncher : shell.launcher.Stationary) (texts : List String) (start : State)
    (hcwd : Path.IsSettled start.session.cwd) (hhome : Path.isAbsolute start.session.home = true)
    (moment : Moment) (h : shell.Leads ⟨.texts texts, start⟩ moment) :
    Path.IsSettled moment.state.session.cwd ∧
    moment.state.session = { start.session with cwd := moment.state.session.cwd } ∧
    ∀ levels command, moment.activity = .command levels command →
      shell.MovesAsTold (shell.execWithin levels) command moment.state := by
  have hstart : Moment.IsSettled start.session ⟨.texts texts, start⟩ :=
    ⟨⟨hcwd, hhome⟩, rfl, trivial⟩
  have hmoment : moment.IsSettled start.session := Leads.settled hshell hlauncher h hstart
  exact ⟨hmoment.isSettled.cwd, hmoment.session_eq, fun levels command _ ↦
    movesAsTold hshell hlauncher levels command hmoment.isSettled⟩

/-- A command that executes `cd ..`, and the moment at which that is carried out. -/
theorem movesAsTold_one_level_deeper :
    let up : Handler := fun _ ↦ .exec "cd .." fun _ ↦ .reply {}
    let shell : Shell := {
      commands := standardCommands.insert "up" up
      launcher := Machine.launcher [] }
    let start : State := {
      session := { cwd := "/a/b", home := "/", followProcess := true }
      host := { tree := ⟨[(["a"], .directory), (["a", "b"], .directory)]⟩, cwd := ["a", "b"] } }
    let moment : Moment :=
      ⟨.command 244 ⟨"cd", [".."], {}⟩, logged (.called "up" []) (prepared {} start)⟩
    shell.MovesByCd ∧ shell.launcher.Stationary ∧ Path.IsSettled start.session.cwd ∧
    shell.Leads ⟨.texts ["up"], start⟩ moment ∧
    shell.MovesAsTold (shell.execWithin 244) ⟨"cd", [".."], {}⟩ moment.state ∧
    ((shell.exec "up").finalState start).session.cwd = "/a" ∧
    ((shell.exec "up").finalState start).host.cwd = ["a"] := by
  intro up shell start moment
  have hshell : shell.MovesByCd :=
    (MovesByCd.standard (Machine.launcher [])).insert (by decide)
      fun _ ↦ .exec "cd .." fun _ ↦ .reply {}
  have hlauncher : shell.launcher.Stationary := Machine.launcher_stationary []
  have hcwd : Path.IsSettled start.session.cwd := ⟨by decide +kernel, by decide +kernel⟩
  have hleads : shell.Leads ⟨.texts ["up"], start⟩ moment := by
    have hup : Command.parse? "up" = some ⟨"up", [], {}⟩ := by decide +kernel
    have hcd : Command.parse? "cd .." = some ⟨"cd", [".."], {}⟩ := by decide +kernel
    have hupLines : lines "up" = ["up"] := by decide +kernel
    have hcdLines : lines "cd .." = ["cd .."] := by decide +kernel
    have htext : shell.Leads ⟨.texts ["up"], start⟩ ⟨.lines maxNesting ["up"], start⟩ := by
      rw [← hupLines]
      exact .single .text
    have hcommand := htext.tail (.line rfl hup)
    have hfind : shell.commands.find? "up" = some up := by
      rw [CommandTable.find?_insert, if_pos rfl]
    have hprocedure := hcommand.tail (.call rfl hfind)
    have hnested := hprocedure.tail .nested
    rw [hcdLines] at hnested
    exact hnested.tail (.line rfl hcd)
  obtain ⟨-, -, htold⟩ := settled_and_movesAsTold_of_leads shell hshell hlauncher ["up"] start hcwd
    (by decide +kernel) moment hleads
  exact ⟨hshell, hlauncher, hcwd, hleads, htold 244 _ rfl, by decide +kernel, by decide +kernel⟩

end Shell

end LineShell
