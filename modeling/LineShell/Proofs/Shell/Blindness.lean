import LineShell.Shell.Exec
import Mathlib.Tactic.SplitIfs

/-!
# What actions do not look at

A shell decides by its session, by the host and by whether it was asked to stop. It never looks at
what it wrote down or showed before. So a change of a state that touches only such things, an unseen
change, can be made before an action or after it: the action ends in the same way and leaves the
same state up to that change (`Action.Blind`).

The property holds of each primitive action and passes to sequences of actions. So it holds of
running a procedure, by induction on the procedure, and of executing text, by induction on the
levels that are left.
-/

namespace LineShell

namespace Action

/-! ## Actions on states -/

variable {α β : Type}

theorem bind_apply (action : Action α) (next : α → Action β) (state : State) :
    (action >>= next) state =
      match action state with
      | .ok value state => next value state
      | .error fault state => .error fault state := by
  change EStateM.bind action next state = _
  rw [EStateM.bind]
  cases action state <;> rfl

theorem pure_apply (value : α) (state : State) :
    (pure value : Action α) state = .ok value state := rfl

theorem get_bind_apply (next : State → Action α) (state : State) :
    (get >>= next) state = next state state := rfl

theorem chdir_of_enter_eq_ok {path : String} {state after : State}
    (h : state.enter path = .ok after) : chdir path state = .ok (.ok ()) after := by
  rw [chdir, h]

theorem chdir_of_enter_eq_error {path : String} {state : State} {e : PathError}
    (h : state.enter path = .error e) : chdir path state = .ok (.error e) state := by
  rw [chdir, h]

/-- The state in which an action ends, whether with a value or with a fault. -/
def finalState (action : Action α) (state : State) : State :=
  match action state with
  | .ok _ state => state
  | .error _ state => state

theorem finalState_of_ok {action : Action α} {state after : State} {value : α}
    (h : action state = .ok value after) : action.finalState state = after := by
  rw [finalState, h]

theorem finalState_of_error {action : Action α} {state after : State} {fault : Fault}
    (h : action state = .error fault after) : action.finalState state = after := by
  rw [finalState, h]

/-- The value that an action ends with, if it does not end with a fault. -/
def value? (action : Action α) (state : State) : Option α :=
  match action state with
  | .ok value _ => some value
  | .error _ _ => none

theorem value?_of_ok {action : Action α} {state after : State} {value : α}
    (h : action state = .ok value after) : action.value? state = some value := by
  rw [value?, h]

theorem eq_ok_of_value? {action : Action α} {state : State} {value : α}
    (h : action.value? state = some value) :
    action state = .ok value (action.finalState state) := by
  rw [value?] at h
  rw [finalState]
  cases hrun : action state with
  | ok other after =>
    rw [hrun] at h
    rw [Option.some.inj h]
  | error fault after =>
    rw [hrun] at h
    contradiction

/-- The fault that an action ends with, if it ends with one. -/
def fault? (action : Action α) (state : State) : Option Fault :=
  match action state with
  | .ok _ _ => none
  | .error fault _ => some fault

theorem eq_error_of_fault? {action : Action α} {state : State} {fault : Fault}
    (h : action.fault? state = some fault) :
    action state = .error fault (action.finalState state) := by
  rw [fault?] at h
  rw [finalState]
  cases hrun : action state with
  | ok value after =>
    rw [hrun] at h
    contradiction
  | error other after =>
    rw [hrun] at h
    rw [Option.some.inj h]

end Action

/-! ## Unseen changes -/

/-- Changes of a state that leave alone what a shell decides by, and that what a shell does to a
state passes over. -/
structure State.Unseen (change : State → State) : Prop where
  session_eq : ∀ state, (change state).session = state.session
  host_eq : ∀ state, (change state).host = state.host
  exitStatus_eq : ∀ state, (change state).exitStatus = state.exitStatus
  move : ∀ state host session,
    change { state with host, session } = { change state with host, session }
  requestExit : ∀ state exitStatus,
    change { state with exitStatus } = { change state with exitStatus }
  display : ∀ (state : State) stream output,
    change { state with terminal := state.terminal.display stream output } =
      { change state with terminal := (change state).terminal.display stream output }
  record : ∀ (state : State) event,
    change { state with journal := state.journal ++ [event] } =
      { change state with journal := (change state).journal ++ [event] }

namespace Action

variable {α β : Type}

/-- The same end with the state changed. -/
def mapState (change : State → State) :
    EStateM.Result Fault State α → EStateM.Result Fault State α
  | .ok value state => .ok value (change state)
  | .error fault state => .error fault (change state)

/-- Whether it does not matter to an action if a state is changed before it or after it. -/
def Blind (change : State → State) (action : Action α) : Prop :=
  ∀ state, action (change state) = mapState change (action state)

namespace Blind

variable {change : State → State}

theorem pure (value : α) : Blind change (Pure.pure value : Action α) := fun _ ↦ rfl

theorem throw (fault : Fault) : Blind change (throw fault : Action α) := fun _ ↦ rfl

theorem bind {action : Action α} {next : α → Action β} (h : Blind change action)
    (hnext : ∀ value, Blind change (next value)) : Blind change (action >>= next) := by
  intro state
  rw [bind_apply, bind_apply, h state]
  cases action state with
  | ok value after => exact hnext value after
  | error fault after => rfl

/-- Looking at the state is blind if what is done next depends on other parts of the state only. -/
theorem get_bind {next : State → Action α} (hstate : ∀ state, next (change state) = next state)
    (hnext : ∀ state, Blind change (next state)) : Blind change (get >>= next) := by
  intro state
  rw [get_bind_apply, get_bind_apply, hstate]
  exact hnext state state

theorem attempt {action : Action α} (h : Blind change action) :
    Blind change (Action.attempt action) := by
  intro state
  rw [Action.attempt, Action.attempt, h state]
  cases action state <;> rfl

end Blind

end Action

namespace State.Unseen

variable {change : State → State} (h : State.Unseen change)
include h

/-! ## Primitive actions -/

theorem blind_requestExit (code : Int) : Action.Blind change (Action.requestExit code) :=
  fun state ↦ congrArg (EStateM.Result.ok ()) (h.requestExit state (some code)).symm

theorem blind_display (stream : Stream) (output : Output) :
    Action.Blind change (Action.display stream output) :=
  fun state ↦ congrArg (EStateM.Result.ok ()) (h.display state stream output).symm

theorem blind_record (event : Event) : Action.Blind change (Action.record event) :=
  fun state ↦ congrArg (EStateM.Result.ok ()) (h.record state event).symm

theorem blind_setHost (host : Host) : Action.Blind change (Action.setHost host) := by
  intro state
  refine congrArg (EStateM.Result.ok ()) (Eq.trans ?_ (h.move state host state.session).symm)
  rw [← h.session_eq]

theorem enter_eq (path : String) (state : State) :
    (change state).enter path = (state.enter path).map change := by
  rw [State.enter, State.enter, h.host_eq, h.session_eq]
  split_ifs
  · cases state.host.chdir path with
    | ok host => exact congrArg Except.ok (h.move state _ _).symm
    | error e => rfl
  · exact congrArg Except.ok (h.move state _ _).symm

theorem blind_chdir (path : String) : Action.Blind change (Action.chdir path) := by
  intro state
  rw [Action.chdir, Action.chdir, h.enter_eq]
  cases state.enter path <;> rfl

/-! ## Actions of a shell -/

theorem blind_deliver (stream : Stream) (output : Output) (target? : Option Redirection.Target)
    (cwd : String) : Action.Blind change (Shell.deliver stream output target? cwd) := by
  cases target? with
  | none =>
    rw [Shell.deliver_none]
    exact h.blind_display stream output
  | some target =>
    rw [Shell.deliver_some]
    refine .get_bind (fun state ↦ by rw [h.host_eq]) fun state ↦ ?_
    split
    · exact h.blind_setHost _
    · exact .throw _
    · exact h.blind_display _ _

theorem blind_emit (result : CommandResult) (plan : Redirection.Plan) (cwd : String) :
    Action.Blind change (Shell.emit result plan cwd) :=
  .bind (h.blind_deliver _ _ _ _) fun _ ↦ h.blind_deliver _ _ _ _

theorem blind_deliverCaptured (stream : Stream) (captured? : Option Bytes)
    (target? : Option Redirection.Target) (cwd : String) :
    Action.Blind change (Shell.deliverCaptured stream captured? target? cwd) := by
  cases target? with
  | none => exact .pure ()
  | some target =>
    cases captured? with
    | none => exact .pure ()
    | some captured => exact h.blind_deliver stream (.bytes captured) (some target) cwd

theorem resolve_eq (shell : Shell) (state : State) (name : String) :
    shell.resolve (change state) name = shell.resolve state name := by
  rw [Shell.resolve, Shell.resolve, h.host_eq, h.session_eq]

/-- Running a procedure is blind, by induction on the procedure. -/
theorem blind_runProcedure (shell : Shell) {nested : String → Action CommandResult}
    (hnested : ∀ text, Action.Blind change (nested text)) (name : String) (procedure : Procedure) :
    Action.Blind change (shell.runProcedure nested name procedure) := by
  induction procedure with
  | reply | refuse | crash => exact .pure _
  | requestExit code next ih => exact .bind (h.blind_requestExit code) fun _ ↦ ih
  | exec text next ih => exact .bind (.attempt (hnested text)) fun answer ↦ ih answer
  | session next ih =>
    exact .get_bind (fun state ↦ by rw [h.session_eq]) fun state ↦ ih state.session
  | resolve other next ih => exact .get_bind (fun state ↦ by rw [h.resolve_eq]) fun state ↦ ih _
  | stat path next ih => exact .get_bind (fun state ↦ by rw [h.host_eq]) fun state ↦ ih _
  | chdir path next ih => exact .bind (h.blind_chdir path) fun answer ↦ ih answer

theorem blind_conclude (command : Command) (cwd : String)
    (outcome : Except LaunchError Finished) :
    Action.Blind change (Outlets.working.conclude command cwd outcome) := by
  cases outcome with
  | ok finished =>
    exact .bind (h.blind_deliverCaptured _ _ _ _) fun _ ↦
      .bind (h.blind_deliverCaptured _ _ _ _) fun _ ↦ .pure _
  | error e =>
    cases e with
    | notStarted failure => exact .bind (h.blind_emit _ _ _) fun _ ↦ .pure _
    | hasNul | refused => exact .throw _

theorem blind_runExternal (shell : Shell) (command : Command) (cwd : String) :
    Action.Blind change (shell.runExternal command cwd) := by
  refine .get_bind (fun state ↦ by rw [h.resolve_eq]) fun state ↦ ?_
  split
  · -- The launcher is given the host and the request, and a change is to be seen in neither.
    refine .bind (h.blind_record _) fun _ ↦ .get_bind (fun state ↦ by rw [h.host_eq]) fun state ↦ ?_
    exact .bind (h.blind_setHost _) fun _ ↦ h.blind_conclude command cwd _
  · exact .bind (h.blind_emit _ _ _) fun _ ↦ .pure _

theorem blind_giveUp (error : Redirection.TargetError) :
    Action.Blind change (Outlets.working.giveUp error) := by
  cases error with
  | hasNul => exact .throw _
  | refused path reason =>
    rw [Shell.giveUp_refused]
    exact .bind (h.blind_display _ _) fun _ ↦ .pure _

theorem blind_dispatchWith (shell : Shell) {nested : String → Action CommandResult}
    (hnested : ∀ text, Action.Blind change (nested text)) (command : Command) :
    Action.Blind change (shell.dispatchWith nested command) := by
  refine .get_bind (fun state ↦ by rw [h.session_eq, h.host_eq]) fun state ↦
    .bind (h.blind_setHost _) fun _ ↦ ?_
  split
  · exact h.blind_giveUp _
  · rw [Outlets.runPrepared]
    split
    · exact .bind (h.blind_record _) fun _ ↦
        .bind (h.blind_runProcedure shell hnested _ _) fun _ ↦
          .bind (h.blind_emit _ _ _) fun _ ↦ .pure _
    · exact h.blind_runExternal shell _ _

theorem blind_execLines {dispatch : Command → Action CommandResult}
    (hdispatch : ∀ command, Action.Blind change (dispatch command)) (last : CommandResult)
    (texts : List String) : Action.Blind change (Shell.execLines dispatch last texts) := by
  induction texts generalizing last with
  | nil => exact .pure last
  | cons text rest ih =>
    refine .get_bind (fun state ↦ by rw [h.exitStatus_eq]) fun state ↦ ?_
    split_ifs
    · exact .pure last
    · split
      · exact ih last
      · exact .bind (hdispatch _) fun result ↦ ih result

/-- Executing text is blind, by induction on the levels that are left. -/
theorem blind_execWithin (shell : Shell) (levels : Nat) (text : String) :
    Action.Blind change (shell.execWithin levels text) := by
  induction levels generalizing text with
  | zero => exact .throw _
  | succ levels ih => exact h.blind_execLines (h.blind_dispatchWith shell ih) _ _

theorem blind_exec (shell : Shell) (text : String) : Action.Blind change (shell.exec text) :=
  h.blind_execWithin shell (Shell.maxNesting + 1) text

theorem blind_dispatch (shell : Shell) (command : Command) :
    Action.Blind change (shell.dispatch command) :=
  h.blind_dispatchWith shell (h.blind_execWithin shell Shell.maxNesting) command

end State.Unseen

end LineShell
