import LineShell.Proofs.Shell.Course

/-!
# Entering directories

Only `cd` moves a session. It goes where its argument leads from the session, or home, and it
succeeds if a directory stands there, which the process, if it follows the session, has to be able to
work in. A command is carried out after its targets were prepared, but preparing targets only writes
to files and neither makes a directory nor takes one away. So whether `cd` succeeds, and where it
goes, is decided in the state before (`Shell.succeeds_cd_iff`).
-/

namespace LineShell

/-! ## Looking at paths -/

namespace Host

theorem stat?_eq (host : Host) (path : String) :
    host.stat? path = if Path.hasNul path then none
      else (host.tree.locate host.cwd path).toOption.bind host.tree.node? := by
  rw [stat?, open?]
  split_ifs
  · rfl
  · rw [← FileTree.stat?_eq, FileTree.stat?]
    cases host.tree.stat host.cwd path <;> rfl

theorem exists_place_of_stat? {host : Host} {path : String} {node : Node}
    (h : host.stat? path = some node) :
    ∃ place, host.tree.locate host.cwd path = .ok place ∧ host.tree.node? place = some node := by
  rw [stat?_eq] at h
  split_ifs at h
  obtain ⟨place, hplace, hnode⟩ := Option.bind_eq_some_iff.mp h
  exact ⟨place, FileTree.locate_eq_ok_iff.mpr hplace, hnode⟩

theorem hasNul_of_stat? {host : Host} {path : String} {node : Node}
    (h : host.stat? path = some node) : Path.hasNul path = false := by
  rw [stat?_eq] at h
  cases hnul : Path.hasNul path with
  | false => rfl
  | true =>
    rw [hnul, if_pos rfl] at h
    contradiction

/-- Where a directory stands, the process can go if it may. -/
theorem chdir_of_directory {host : Host} {path : String} {place : Place} {permissions : Permissions}
    (hnul : Path.hasNul path = false) (hplace : host.tree.locate host.cwd path = .ok place)
    (hnode : host.tree.node? place = some (.directory permissions)) :
    host.chdir path = if permissions.search then .ok { host with cwd := place }
      else .error (.file .permissionDenied) := by
  simp only [chdir, open?, hnul, FileTree.workingPlace, hplace, bind, Except.bind, hnode]
  cases permissions.search <;> rfl

/-- Writing to files makes no directory and takes none away. -/
theorem Becomes.stat?_eq_directory_iff {before after : Host} (h : before.Becomes after)
    (path : String) (permissions : Permissions) :
    after.stat? path = some (.directory permissions) ↔
      before.stat? path = some (.directory permissions) := by
  obtain ⟨tree, htree, rfl⟩ := h
  rw [stat?_eq, stat?_eq, htree.toOption_locate]
  split_ifs
  · exact Iff.rfl
  · cases (before.tree.locate before.cwd path).toOption with
    | none => exact Iff.rfl
    | some place => exact htree.directory_iff place permissions

end Host

/-! ## What `cd` does -/

/-- Where `cd` goes with its arguments: to the place that the first one means, or home. -/
def Session.destination (session : Session) : List String → String
  | [] => Path.normalize session.home
  | location :: _ => session.expand location

theorem Session.expand_headD {session : Session} (h : Path.isAbsolute session.home = true)
    (args : List String) : session.expand (args.headD "~") = session.destination args := by
  cases args with
  | nil => exact Path.normalize_join_empty h
  | cons location rest => rfl

namespace State

/-- Whether a path leads to a directory, and the process may work in it if it follows the session. -/
def CanEnter (state : State) (path : String) : Prop :=
  ∃ permissions, state.host.stat? path = some (.directory permissions) ∧
    (state.session.followProcess = true → permissions.search = true)

/-- A state whose session has gone to a path, and the process with it if it follows and can. -/
def entering (path : String) (state : State) : State :=
  { state with
    host := if state.session.followProcess then (state.host.chdir path).toOption.getD state.host
      else state.host
    session := { state.session with cwd := path } }

variable {state : State} {path : String}

theorem CanEnter.hasNul_eq_false (h : state.CanEnter path) : Path.hasNul path = false := by
  obtain ⟨permissions, hstat, -⟩ := h
  exact Host.hasNul_of_stat? hstat

/-- What can be entered is entered: the session works there, and the process if it follows. -/
theorem CanEnter.exists_enter_eq (h : state.CanEnter path) :
    ∃ place, state.host.tree.locate state.host.cwd path = .ok place ∧
      state.host.tree.DirectoryAt place ∧
      state.enter path = .ok { state with
        host := if state.session.followProcess then { state.host with cwd := place }
          else state.host
        session := { state.session with cwd := path } } := by
  have hnul := h.hasNul_eq_false
  obtain ⟨permissions, hstat, hsearch⟩ := h
  obtain ⟨place, hplace, hnode⟩ := Host.exists_place_of_stat? hstat
  refine ⟨place, hplace, ⟨permissions, hnode⟩, ?_⟩
  rw [enter, Host.chdir_of_directory hnul hplace hnode]
  split_ifs with hfollow hmay
  · rfl
  · exact absurd (hsearch hfollow) hmay
  · rfl

theorem CanEnter.enter_eq_entering (h : state.CanEnter path) :
    state.enter path = .ok (state.entering path) := by
  obtain ⟨place, -, -, henter⟩ := h.exists_enter_eq
  rw [enter] at henter ⊢
  rw [entering]
  split_ifs at henter ⊢ with hfollow
  · cases hchdir : state.host.chdir path with
    | ok host => rfl
    | error e =>
      rw [hchdir] at henter
      contradiction
  · rfl

/-- Where the process works once something was entered. -/
theorem CanEnter.exists_cwd_eq (h : state.CanEnter path) :
    ∃ place, state.host.tree.locate state.host.cwd path = .ok place ∧
      state.host.tree.DirectoryAt place ∧
      (state.entering path).host.cwd
        = if state.session.followProcess then place else state.host.cwd := by
  obtain ⟨place, hplace, hdirectory, henter⟩ := h.exists_enter_eq
  refine ⟨place, hplace, hdirectory, ?_⟩
  rw [Except.ok.inj (h.enter_eq_entering.symm.trans henter)]
  dsimp only
  split_ifs <;> rfl

/-- Where a directory stands and the session still cannot go, the process may not work. -/
theorem enter_eq_error {permissions : Permissions}
    (hstat : state.host.stat? path = some (.directory permissions)) (h : ¬ state.CanEnter path) :
    state.enter path = .error (.file .permissionDenied) := by
  have hnul := Host.hasNul_of_stat? hstat
  obtain ⟨place, hplace, hnode⟩ := Host.exists_place_of_stat? hstat
  rw [enter, Host.chdir_of_directory hnul hplace hnode]
  split_ifs with hfollow hmay
  · exact absurd ⟨permissions, hstat, fun _ ↦ hmay⟩ h
  · rfl
  · exact absurd ⟨permissions, hstat, fun hfollows ↦ absurd hfollows hfollow⟩ h

theorem canEnter_iff_of_becomes {after : State} (h : state.host.Becomes after.host)
    (hsession : after.session = state.session) : after.CanEnter path ↔ state.CanEnter path := by
  rw [CanEnter, CanEnter, hsession]
  exact exists_congr fun permissions ↦
    and_congr_left fun _ ↦ h.stat?_eq_directory_iff path permissions

end State

namespace Shell

variable (shell : Shell) (nested : String → Action CommandResult)

theorem runProcedure_cd_of_canEnter (name : String) {args : List String} {state : State}
    (h : state.CanEnter (state.session.expand (args.headD "~"))) :
    shell.runProcedure nested name (Builtin.cd args) state =
      .ok {} (state.entering (state.session.expand (args.headD "~"))) := by
  have henter := Action.chdir_of_enter_eq_ok h.enter_eq_entering
  obtain ⟨permissions, hstat, -⟩ := h
  rw [Builtin.cd, runProcedure, Action.get_bind_apply]
  dsimp only
  rw [runProcedure, Action.get_bind_apply, hstat]
  dsimp only
  rw [Node.isDirectory, if_pos rfl, runProcedure, Action.bind_apply, henter]
  rfl

theorem runProcedure_cd_of_not_canEnter (name : String) {args : List String} {state : State}
    (h : ¬ state.CanEnter (state.session.expand (args.headD "~"))) :
    ∃ message, shell.runProcedure nested name (Builtin.cd args) state =
      .ok (.failure message) state := by
  rw [Builtin.cd, runProcedure, Action.get_bind_apply]
  dsimp only
  rw [runProcedure, Action.get_bind_apply]
  cases hstat : state.host.stat? (state.session.expand (args.headD "~")) with
  | none => exact ⟨_, rfl⟩
  | some node =>
    cases node with
    | directory permissions =>
      have henter := Action.chdir_of_enter_eq_error (State.enter_eq_error hstat h)
      dsimp only
      rw [Node.isDirectory, if_pos rfl, runProcedure, Action.bind_apply, henter]
      exact ⟨_, rfl⟩
    | file | link | device | program => exact ⟨_, rfl⟩

/-- Whether carrying out a command succeeds: its targets can be prepared, and its exit code is
zero. -/
def Succeeds (command : Command) (state : State) : Prop :=
  (command.plan.prepare state.session.cwd state.host).1 = .ok () ∧
  ∃ performed after, shell.perform nested command state.session.cwd (prepared command.plan state)
      = .ok performed after ∧ performed.result.exitCode = 0

variable {shell nested} {command : Command} {state : State}

/-- What a dispatch gives as the exit code of a command tells whether the command succeeded. -/
theorem exitCode_eq_zero_iff {result : CommandResult} {after : State}
    (h : shell.dispatchWith nested command state = .ok result after) :
    result.exitCode = 0 ↔ shell.Succeeds nested command state := by
  rw [Succeeds]
  cases hprepare : (command.plan.prepare state.session.cwd state.host).1 with
  | error e =>
    cases e with
    | hasNul =>
      rw [dispatchWith_apply_of_hasNul hprepare] at h
      contradiction
    | refused path reason =>
      rw [dispatchWith_apply_of_refused hprepare] at h
      obtain ⟨rfl, -⟩ := EStateM.Result.ok.inj h
      exact iff_of_false Int.one_ne_zero fun hsucceeds ↦ nomatch hsucceeds.1
  | ok =>
    rw [dispatchWith_apply_of_prepared _ _ _ hprepare, Action.bind_apply] at h
    cases hperform : shell.perform nested command state.session.cwd
        (prepared command.plan state) with
    | error fault middle =>
      rw [hperform] at h
      contradiction
    | ok performed middle =>
      rw [hperform] at h
      dsimp only at h
      rw [Action.bind_apply] at h
      cases hdeliver : deliverAll performed command.plan state.session.cwd middle with
      | error fault after =>
        rw [hdeliver] at h
        contradiction
      | ok done delivered =>
        rw [hdeliver] at h
        obtain ⟨rfl, -⟩ := EStateM.Result.ok.inj h
        exact ⟨fun hcode ↦ ⟨rfl, performed, middle, rfl, hcode⟩, by
          rintro ⟨-, other, after, hother, hcode⟩
          obtain ⟨rfl, -⟩ := EStateM.Result.ok.inj hother
          exact hcode⟩

/-! ### Performing `cd` -/

/-- Preparing targets changes nothing about where a session can go. -/
theorem canEnter_prepared_iff (plan : Redirection.Plan) (state : State) (path : String) :
    (prepared plan state).CanEnter path ↔ state.CanEnter path :=
  State.canEnter_iff_of_becomes (Redirection.becomes_prepareTargets _ _ _) rfl

section Cd

variable (hfind : shell.commands.find? command.name = some Builtin.cd)
include hfind

section

variable (nested state) (cwd : String)

theorem perform_cd_of_canEnter
    (h : state.CanEnter (state.session.expand (command.args.headD "~"))) :
    shell.perform nested command cwd state = .ok (.ofResult {})
      ((logged (.called command.name command.args) state).entering
        (state.session.expand (command.args.headD "~"))) := by
  obtain ⟨result, after, hrun, hperform⟩ := exists_perform_of_handler nested hfind cwd state
  have hlogged : (logged (.called command.name command.args) state).CanEnter
      ((logged (.called command.name command.args) state).session.expand
        (command.args.headD "~")) := h
  rw [shell.runProcedure_cd_of_canEnter nested command.name hlogged] at hrun
  obtain ⟨rfl, rfl⟩ := EStateM.Result.ok.inj hrun
  exact hperform

theorem perform_cd_of_not_canEnter
    (h : ¬ state.CanEnter (state.session.expand (command.args.headD "~"))) :
    ∃ message, shell.perform nested command cwd state = .ok (.ofResult (.failure message))
      (logged (.called command.name command.args) state) := by
  obtain ⟨result, after, hrun, hperform⟩ := exists_perform_of_handler nested hfind cwd state
  have hlogged : ¬ (logged (.called command.name command.args) state).CanEnter
      ((logged (.called command.name command.args) state).session.expand
        (command.args.headD "~")) := h
  obtain ⟨message, hmessage⟩ := shell.runProcedure_cd_of_not_canEnter nested command.name hlogged
  rw [hmessage] at hrun
  obtain ⟨rfl, rfl⟩ := EStateM.Result.ok.inj hrun
  exact ⟨message, hperform⟩

end

/-- **`cd` succeeds** exactly if its targets can be prepared and the place that its argument means
is a directory that can be entered. -/
theorem succeeds_cd_iff : shell.Succeeds nested command state ↔
    (command.plan.prepare state.session.cwd state.host).1 = .ok () ∧
      state.CanEnter (state.session.expand (command.args.headD "~")) := by
  have hcanEnter := canEnter_prepared_iff command.plan state
    (state.session.expand (command.args.headD "~"))
  rw [Succeeds, ← hcanEnter]
  refine and_congr_right fun _ ↦ ?_
  by_cases henter : (prepared command.plan state).CanEnter
      (state.session.expand (command.args.headD "~"))
  · have hperform := perform_cd_of_canEnter nested (prepared command.plan state) hfind
      state.session.cwd henter
    exact iff_of_true ⟨_, _, hperform, rfl⟩ henter
  · obtain ⟨message, hperform⟩ := perform_cd_of_not_canEnter nested (prepared command.plan state)
      hfind state.session.cwd henter
    refine iff_of_false ?_ henter
    rintro ⟨performed, after, hother, hcode⟩
    rw [hperform] at hother
    obtain ⟨rfl, -⟩ := EStateM.Result.ok.inj hother
    exact Int.one_ne_zero hcode

end Cd

end Shell

end LineShell
