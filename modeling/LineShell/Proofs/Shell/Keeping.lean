import LineShell.Proofs.Shell.Journal

/-!
# What actions leave as it is

Many arguments about a shell need to know of an action only that it does not touch some part of the
state, however it ends: delivery does not write in the journal, a command that asks for no execution
does not touch a file. `Action.Keeps` says this of whatever can be read off a state, and it passes
to sequences of actions.

A procedure that asks for no execution is direct. A direct procedure can move the working directory
and ask the shell to stop, and that is all: every part of the state which these two leave as it is
stays as it is (`Procedure.Direct.keeps`). The commands that every shell knows are direct, and they
print nothing on the standard error; both follow by one case analysis (`Builtin.Hereditary`).
-/

namespace LineShell

/-- Only the working directory of the process moves. -/
theorem Host.exists_of_chdir {host after : Host} {path : String} (h : host.chdir path = .ok after) :
    ∃ here, after = { host with cwd := here } := by
  rw [chdir] at h
  cases hplace : open? path (host.tree.workingPlace host.cwd path) with
  | error e =>
    rw [hplace] at h
    contradiction
  | ok place =>
    rw [hplace] at h
    exact ⟨place, (Except.ok.inj h).symm⟩

/-- Only the working directories of the session and of the process move. -/
theorem State.exists_of_enter {state after : State} {path : String}
    (h : state.enter path = .ok after) :
    ∃ here, after = { state with
      host := { state.host with cwd := here }
      session := { state.session with cwd := path } } := by
  rw [enter] at h
  split_ifs at h
  · cases hhost : state.host.chdir path with
    | error e =>
      rw [hhost] at h
      contradiction
    | ok host =>
      rw [hhost] at h
      obtain ⟨here, rfl⟩ := Host.exists_of_chdir hhost
      exact ⟨here, (Except.ok.inj h).symm⟩
  · exact ⟨state.host.cwd, (Except.ok.inj h).symm⟩

namespace Action

variable {α β γ : Type}

theorem finalState_bind (action : Action α) (next : α → Action β) (state : State) :
    (action >>= next).finalState state =
      match action state with
      | .ok value state => (next value).finalState state
      | .error _ state => state := by
  rw [finalState, bind_apply]
  cases action state <;> rfl

/-- Whether an action leaves what is read off the state as it is, however it ends. -/
def Keeps (read : State → γ) (action : Action α) : Prop :=
  ∀ state, read (action.finalState state) = read state

namespace Keeps

variable {read : State → γ} {action : Action α} {next : α → Action β}

theorem pure (value : α) : Keeps read (Pure.pure value : Action α) := fun _ ↦ rfl

theorem throw (fault : Fault) : Keeps read (throw fault : Action α) := fun _ ↦ rfl

/-- After an action, only what it did itself is to be seen. -/
theorem finalState_bind (hnext : ∀ value, Keeps read (next value)) (state : State) :
    read ((action >>= next).finalState state) = read (action.finalState state) := by
  rw [Action.finalState_bind, finalState]
  cases action state with
  | ok value after => exact hnext value after
  | error fault after => rfl

theorem bind (h : Keeps read action) (hnext : ∀ value, Keeps read (next value)) :
    Keeps read (action >>= next) := fun state ↦
  (finalState_bind hnext state).trans (h state)

theorem get_bind {next : State → Action β} (hnext : ∀ state, Keeps read (next state)) :
    Keeps read (get >>= next) := fun state ↦ hnext state state

end Keeps

/-- What does not depend on working directories is kept when they change. -/
theorem keeps_chdir {read : State → γ} (hread : ∀ (state : State) (here : Place) (cwd : String),
      read { state with
        host := { state.host with cwd := here }
        session := { state.session with cwd } } = read state) (path : String) :
    Keeps read (chdir path) := by
  intro state
  cases henter : state.enter path with
  | error e => rw [finalState_of_ok (chdir_of_enter_eq_error henter)]
  | ok after =>
    rw [finalState_of_ok (chdir_of_enter_eq_ok henter)]
    obtain ⟨here, rfl⟩ := State.exists_of_enter henter
    exact hread state here path

end Action

/-! ## Direct procedures -/

/-- Procedures that never ask for text to be executed. -/
inductive Procedure.Direct : Procedure → Prop
  | reply (result : CommandResult) : Direct (.reply result)
  | refuse (message : String) : Direct (.refuse message)
  | crash (message : String) : Direct (.crash message)
  | requestExit (code : Int) {next : Procedure} : Direct next → Direct (.requestExit code next)
  | session {next : Session → Procedure} :
      (∀ session, Direct (next session)) → Direct (.session next)
  | resolve (name : String) {next : Resolution → Procedure} :
      (∀ resolution, Direct (next resolution)) → Direct (.resolve name next)
  | stat (path : String) {next : Option Node → Procedure} :
      (∀ node?, Direct (next node?)) → Direct (.stat path next)
  | chdir (path : String) {next : Except PathError Unit → Procedure} :
      (∀ answer, Direct (next answer)) → Direct (.chdir path next)

/-- **A direct procedure only moves and asks to stop.** -/
theorem Procedure.Direct.keeps {γ : Type} {read : State → γ} {procedure : Procedure}
    (h : procedure.Direct) (hexit : ∀ code, Action.Keeps read (Action.requestExit code))
    (hchdir : ∀ path, Action.Keeps read (Action.chdir path)) (shell : Shell)
    (nested : String → Action CommandResult) (name : String) :
    Action.Keeps read (shell.runProcedure nested name procedure) := by
  induction h with
  | reply | refuse | crash => exact .pure _
  | requestExit code _ ih => exact .bind (hexit code) fun _ ↦ ih
  | session _ ih => exact .get_bind fun state ↦ ih state.session
  | resolve other _ ih => exact .get_bind fun state ↦ ih _
  | stat path _ ih => exact .get_bind fun state ↦ ih _
  | chdir path _ ih => exact .bind (hchdir path) fun allowed ↦ ih allowed

/-! ## Replies -/

/-- Procedures whose replies all have a property, whatever they are answered on the way. -/
inductive Procedure.Replies (p : CommandResult → Prop) : Procedure → Prop
  | reply {result : CommandResult} : p result → Replies p (.reply result)
  | refuse (message : String) : Replies p (.refuse message)
  | crash (message : String) : Replies p (.crash message)
  | requestExit (code : Int) {next : Procedure} :
      Replies p next → Replies p (.requestExit code next)
  | exec (text : String) {next : Except Fault CommandResult → Procedure} :
      (∀ answer, Replies p (next answer)) → Replies p (.exec text next)
  | session {next : Session → Procedure} :
      (∀ session, Replies p (next session)) → Replies p (.session next)
  | resolve (name : String) {next : Resolution → Procedure} :
      (∀ resolution, Replies p (next resolution)) → Replies p (.resolve name next)
  | stat (path : String) {next : Option Node → Procedure} :
      (∀ node?, Replies p (next node?)) → Replies p (.stat path next)
  | chdir (path : String) {next : Except PathError Unit → Procedure} :
      (∀ answer, Replies p (next answer)) → Replies p (.chdir path next)

/-- **A procedure ends with one of its replies** or with a failure that the shell words. -/
theorem Procedure.Replies.of_runProcedure {p : CommandResult → Prop} {procedure : Procedure}
    (h : procedure.Replies p) (hfailure : ∀ message, p (.failure message)) {shell : Shell}
    {nested : String → Action CommandResult} {name : String} {state after : State}
    {result : CommandResult}
    (hrun : shell.runProcedure nested name procedure state = .ok result after) : p result := by
  induction h generalizing state with
  | reply hresult =>
    cases hrun
    exact hresult
  | refuse message | crash message =>
    cases hrun
    exact hfailure _
  | requestExit code _ ih => exact ih hrun
  | exec text _ ih =>
    rw [Shell.runProcedure, Action.bind_apply, Action.attempt] at hrun
    cases hnested : nested text state <;> rw [hnested] at hrun <;> exact ih _ hrun
  | session _ ih => exact ih _ hrun
  | resolve other _ ih => exact ih _ hrun
  | stat path _ ih => exact ih _ hrun
  | chdir path _ ih =>
    rw [Shell.runProcedure, Action.bind_apply, Action.chdir] at hrun
    cases henter : state.enter path <;> rw [henter] at hrun <;> exact ih _ hrun

/-! ## The commands that every shell knows -/

/-- Whether a code can be the exit status of a process. -/
def IsStatus (code : Int) : Prop :=
  0 ≤ code ∧ code < 256

instance (code : Int) : Decidable (IsStatus code) :=
  inferInstanceAs (Decidable (0 ≤ code ∧ code < 256))

theorem isStatus_mod (number : Int) : IsStatus (number % 256) := by
  rw [IsStatus]
  omega

namespace Builtin

/-- Whether a property of procedures passes to a procedure from what may follow its first request,
for the requests and the replies that the commands of every shell consist of. -/
structure Hereditary (motive : Procedure → Prop) : Prop where
  reply : ∀ stdout exitCode, motive (.reply { stdout, exitCode })
  refuse : ∀ message, motive (.refuse message)
  requestExit : ∀ {code next}, IsStatus code → motive next → motive (.requestExit code next)
  session : ∀ {next}, (∀ session, motive (next session)) → motive (.session next)
  resolve : ∀ name {next}, (∀ resolution, motive (next resolution)) → motive (.resolve name next)
  stat : ∀ path {next}, (∀ node?, motive (next node?)) → motive (.stat path next)
  crash : ∀ message, motive (.crash message)
  chdir : ∀ path {next}, (∀ answer, motive (next answer)) → motive (.chdir path next)

namespace Hereditary

variable {motive : Procedure → Prop} (h : Hereditary motive)
include h

theorem typeFrom (printed : String) (missing : Bool) (names : List String) :
    motive (Builtin.typeFrom printed missing names) := by
  induction names generalizing printed missing with
  | nil => exact h.reply _ _
  | cons name rest ih => exact h.resolve name fun resolution ↦ ih _ _

theorem exit (args : List String) : motive (Builtin.exit args) := by
  cases args with
  | nil => exact h.requestExit (by decide) (h.reply _ _)
  | cons status rest =>
    rw [Builtin.exit]
    cases Text.integer? status with
    | none => exact h.requestExit (by decide) (h.reply _ _)
    | some number => exact h.requestExit (isStatus_mod number) (h.reply _ _)

theorem type (args : List String) : motive (Builtin.type args) := by
  cases args with
  | nil => exact h.reply _ _
  | cons name rest => exact h.typeFrom _ _ _

theorem cd (args : List String) : motive (Builtin.cd args) := by
  refine h.session fun session ↦ h.stat _ fun node? ↦ ?_
  cases node? with
  | none => exact h.refuse _
  | some node =>
    dsimp only
    split_ifs
    · refine h.chdir _ fun answer ↦ ?_
      split
      · exact h.reply _ _
      · exact h.refuse _
      · exact h.crash _
    · exact h.refuse _

/-- What passes to procedures from their parts holds of the commands that every shell knows. -/
theorem of_mem_standardCommands {entry : String × Handler}
    (hentry : entry ∈ standardCommands.entries) (args : List String) : motive (entry.2 args) := by
  simp only [standardCommands, List.mem_cons, List.not_mem_nil, or_false] at hentry
  rcases hentry with rfl | rfl | rfl | rfl | rfl
  · exact h.exit args
  · exact h.type args
  · exact h.cd args
  · exact h.session fun session ↦ h.reply _ _
  · exact h.reply _ _

end Hereditary

theorem hereditary_direct : Hereditary Procedure.Direct where
  reply := fun _ _ ↦ .reply _
  refuse := .refuse
  requestExit := fun _ ↦ .requestExit _
  session := .session
  resolve := .resolve
  stat := .stat
  crash := .crash
  chdir := .chdir

theorem direct_cd (args : List String) : (cd args).Direct := hereditary_direct.cd args

/-- The commands that every shell knows are direct. -/
theorem direct_of_mem_standardCommands {entry : String × Handler}
    (h : entry ∈ standardCommands.entries) (args : List String) : (entry.2 args).Direct :=
  hereditary_direct.of_mem_standardCommands h args

/-- They print nothing on the standard error. -/
theorem replies_of_mem_standardCommands {entry : String × Handler}
    (h : entry ∈ standardCommands.entries) (args : List String) :
    (entry.2 args).Replies fun result ↦ result.stderr = "" :=
  have hhereditary : Hereditary (Procedure.Replies fun result ↦ result.stderr = "") := {
    reply := fun _ _ ↦ .reply rfl
    refuse := .refuse
    requestExit := fun _ ↦ .requestExit _
    session := .session
    resolve := .resolve
    stat := .stat
    crash := .crash
    chdir := .chdir }
  hhereditary.of_mem_standardCommands h args

end Builtin

end LineShell
