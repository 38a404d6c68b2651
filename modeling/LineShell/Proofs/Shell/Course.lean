import LineShell.Proofs.Shell.Confinement
import LineShell.Proofs.Shell.Execution
import LineShell.Proofs.Shell.Performing
import Mathlib.Logic.Relation

/-!
# The course of a run

What a shell does to its state it does in small portions: it shows something, it writes to a file,
it launches a program, it calls a command. A relation between states that holds across each portion,
and that can be chained, holds across every execution (`Shell.Admits.within_exec`). So a law about
executions is proved by looking at the portions only, and the induction over lines and levels is
made once. It does not matter to such a law whether the outlets take what they are given.

Such a law relates the ends of an execution. For what holds on the way, `Shell.Follows` takes an
execution apart: an activity of the shell begins with a part of itself, or goes on after that part.
What follows from an activity in any number of such steps are the moments of its run, at every depth
at which commands execute text that calls commands. No call is missed: whatever an execution writes
down as called has come up as a moment (`Shell.accounts_texts`).
-/

namespace LineShell

/-! ## The ways a dispatch begins -/

namespace Shell

section Dispatch

variable {shell : Shell} {nested : String → Action CommandResult} {command : Command}
  {state : State}

theorem dispatchWith_apply_of_hasNul
    (h : (command.plan.prepare state.session.cwd state.host).1 = .error .hasNul) :
    shell.dispatchWith nested command state = .error .hasNul (prepared command.plan state) :=
  Outlets.dispatchWith_apply_of_error .working shell nested h

/-- A target that is refused is reported, and the command does not run. -/
theorem dispatchWith_apply_of_refused {path : String} {e : FileError}
    (h : (command.plan.prepare state.session.cwd state.host).1 = .error (.refused path e)) :
    shell.dispatchWith nested command state =
      .ok { stderr := shellMessage (path ++ ": " ++ e.reason), exitCode := 1 }
        { prepared command.plan state with
          terminal := state.terminal.display .stderr
            (.text (shellMessage (path ++ ": " ++ e.reason))) } := by
  refine (Outlets.dispatchWith_apply_of_error .working shell nested h).trans ?_
  rw [giveUp_refused]
  rfl

end Dispatch

end Shell

/-! ## Relations that executions stay within -/

namespace Action

variable {α : Type}

theorem finalState_get_bind (next : State → Action α) (state : State) :
    (get >>= next).finalState state = (next state).finalState state := rfl

/-- Whether an action leads from every state to a related one, however it ends. -/
def Within (R : State → State → Prop) (action : Action α) : Prop :=
  ∀ state, R state (action.finalState state)

theorem Within.get_bind {R : State → State → Prop} {next : State → Action α}
    (hnext : ∀ state, Within R (next state)) : Within R (get >>= next) :=
  fun state ↦ hnext state state

end Action

open LineShell.Action (Within)

/-- Relations between states that can be chained and that hold across the delivery of output. -/
structure State.AdmitsOutput (R : State → State → Prop) : Prop where
  refl : ∀ state, R state state
  trans : ∀ {before middle after}, R before middle → R middle after → R before after
  terminal : ∀ (state : State) terminal, R state { state with terminal }
  write : ∀ (state : State) {host}, state.host.Becomes host → R state { state with host }

namespace State.AdmitsOutput

variable {R : State → State → Prop} (h : State.AdmitsOutput R)
include h

theorem bind {α β : Type} {action : Action α} {next : α → Action β} (haction : Within R action)
    (hnext : ∀ value, Within R (next value)) : Within R (action >>= next) := by
  intro state
  have hfirst : R state (action.finalState state) := haction state
  rw [Action.finalState] at hfirst
  rw [Action.finalState_bind]
  cases hrun : action state with
  | ok value middle =>
    rw [hrun] at hfirst
    exact h.trans hfirst (hnext value middle)
  | error fault middle =>
    rw [hrun] at hfirst
    exact hfirst

section Outlets

variable (outlets : Outlets)

theorem within_display (stream : Stream) (output : Output) :
    Within R (outlets.display stream output) := by
  rw [Outlets.display]
  split_ifs
  · exact h.refl
  -- What the stream took stays shown, whether or not it refused the rest.
  · refine .get_bind fun state ↦ h.bind (fun state ↦ h.terminal state _) fun _ ↦ ?_
    split <;> exact h.refl

theorem within_deliver (stream : Stream) (output : Output) (target? : Option Redirection.Target)
    (cwd : String) : Within R (outlets.deliver stream output target? cwd) := by
  cases target? with
  | none => exact h.within_display outlets stream output
  | some target =>
    intro state
    rw [Outlets.deliver]
    cases outlets.bytes output with
    | error message => exact h.refl state
    | ok data =>
      dsimp only
      rw [Action.finalState, Action.get_bind_apply]
      cases hwrite : Redirection.writeTarget target data cwd state.host with
      | ok host => exact h.write state (Redirection.becomes_of_writeTarget hwrite)
      | error e =>
        cases e with
        | hasNul => exact h.refl state
        | refused path reason => exact h.within_display outlets .stderr _ state

theorem within_emit (result : CommandResult) (plan : Redirection.Plan) (cwd : String) :
    Within R (outlets.emit result plan cwd) :=
  h.bind (h.within_deliver outlets _ _ _ _) fun _ ↦ h.within_deliver outlets _ _ _ _

theorem within_deliverCaptured (stream : Stream) (captured? : Option Bytes)
    (target? : Option Redirection.Target) (cwd : String) :
    Within R (outlets.deliverCaptured stream captured? target? cwd) := by
  cases target? with
  | none => exact h.refl
  | some target =>
    cases captured? with
    | none => exact h.refl
    | some captured => exact h.within_deliver outlets stream (.bytes captured) (some target) cwd

end Outlets

theorem within_deliverOutput (performed : Performed) (plan : Redirection.Plan) (cwd : String)
    (stream : Stream) : Within R (Shell.deliverOutput performed plan cwd stream) := by
  rw [Shell.deliverOutput]
  cases performed.output stream with
  | none => exact h.refl
  | some output => exact h.within_deliver .working stream output _ cwd

theorem within_deliverAll (performed : Performed) (plan : Redirection.Plan) (cwd : String) :
    Within R (Shell.deliverAll performed plan cwd) :=
  h.bind (h.within_deliverOutput performed plan cwd .stdout) fun _ ↦
    h.within_deliverOutput performed plan cwd .stderr

end State.AdmitsOutput

namespace Action

variable {R : State → State → Prop} {α : Type}

theorem Within.attempt {action : Action α} (h : Within R action) :
    Within R (Action.attempt action) := by
  intro state
  have hends : (Action.attempt action).finalState state = action.finalState state := by
    rw [finalState, finalState, Action.attempt]
    cases action state <;> rfl
  rw [hends]
  exact h state

end Action

/-- What holds across the requests that a procedure is confined to holds across running it, by
induction on the procedure. -/
theorem Procedure.Confined.within {R : State → State → Prop} (hR : State.AdmitsOutput R)
    {enters : String → Prop} {procedure : Procedure}
    (h : procedure.Confined (fun _ ↦ True) (fun _ ↦ True) enters)
    (hexit : ∀ code, Within R (Action.requestExit code))
    (henters : ∀ path, enters path → Within R (Action.chdir path)) {shell : Shell}
    {nested : String → Action CommandResult} (hnested : ∀ text, Within R (nested text))
    (name : String) : Within R (shell.runProcedure nested name procedure) := by
  induction h with
  | reply | refuse | crash => exact hR.refl
  | requestExit code _ ih => exact hR.bind (hexit code) fun _ ↦ ih
  | exec text _ ih => exact hR.bind (hnested text).attempt fun answer ↦ ih answer
  | session _ ih => exact .get_bind fun state ↦ ih state.session trivial
  | resolve other _ ih => exact .get_bind fun state ↦ ih _
  | stat _ _ ih => exact .get_bind fun state ↦ ih _
  | chdir hpath _ ih => exact hR.bind (henters _ hpath) fun answer ↦ ih answer

/-- Relations between states that hold across everything a shell does to its state besides, given
that they hold across the executions that its commands ask for. -/
structure Shell.Admits (shell : Shell) (R : State → State → Prop) : Prop
    extends State.AdmitsOutput R where
  launch : ∀ state launch, R state
    { Shell.logged (.launched launch) state with host := (shell.launcher state.host launch).2 }
  call : ∀ {nested : String → Action CommandResult}, (∀ text, Within R (nested text)) →
    ∀ {name handler}, shell.commands.find? name = some handler → ∀ args state, R state
      ((shell.runProcedure nested name (handler args)).finalState
        (Shell.logged (.called name args) state))

namespace Shell.Admits

variable {shell : Shell} {R : State → State → Prop} (h : shell.Admits R)
include h

variable {nested : String → Action CommandResult} (hnested : ∀ text, Within R (nested text))
include hnested

omit hnested in
theorem within_conclude (outlets : Outlets) (command : Command) (cwd : String)
    (outcome : Except LaunchError Finished) :
    Within R (outlets.conclude command cwd outcome) := by
  cases outcome with
  | ok finished =>
    exact h.bind (h.within_deliverCaptured outlets _ _ _ _) fun _ ↦
      h.bind (h.within_deliverCaptured outlets _ _ _ _) fun _ ↦ h.refl
  | error e =>
    cases e with
    | notStarted failure => exact h.bind (h.within_emit outlets _ _ _) fun _ ↦ h.refl
    | hasNul | refused => exact h.refl

omit hnested in
theorem within_runExternal (outlets : Outlets) (command : Command) (cwd : String) :
    Within R (outlets.runExternal shell command cwd) := by
  refine .get_bind fun state ↦ ?_
  split
  · -- Writing the launch down and taking the host from the launcher are one portion.
    intro before
    exact h.trans (h.launch before _) (h.within_conclude outlets command cwd _ _)
  · exact h.bind (h.within_emit outlets _ _ _) fun _ ↦ h.refl

theorem within_runPrepared (outlets : Outlets) (command : Command) (cwd : String) :
    Within R (outlets.runPrepared shell nested command cwd) := by
  rw [Outlets.runPrepared]
  split
  · rename_i handler hfind
    intro state
    obtain ⟨result, after, hrun⟩ := shell.exists_runProcedure_eq_ok nested command.name
      (handler command.args) (logged (.called command.name command.args) state)
    have hcall := h.call hnested hfind command.args state
    rw [Action.finalState_of_ok hrun] at hcall
    rw [Action.finalState, record_bind_apply, Action.bind_apply, hrun, ← Action.finalState]
    refine h.trans hcall (h.bind (h.within_emit outlets result command.plan cwd) (fun _ ↦ ?_) _)
    exact h.refl
  · exact h.within_runExternal outlets command cwd

theorem within_outletsDispatchWith (outlets : Outlets) (command : Command) :
    Within R (outlets.dispatchWith shell nested command) := by
  intro state
  have hprepared : R state (prepared command.plan state) :=
    h.write state (Redirection.becomes_prepareTargets _ _ _)
  rw [Action.finalState]
  cases hprepare : (command.plan.prepare state.session.cwd state.host).1 with
  | ok =>
    rw [outlets.dispatchWith_apply_of_prepared shell nested hprepare]
    exact h.trans hprepared (h.within_runPrepared hnested outlets command _ _)
  | error e =>
    rw [outlets.dispatchWith_apply_of_error shell nested hprepare]
    refine h.trans hprepared ?_
    cases e with
    | hasNul => exact h.refl _
    | refused path reason =>
      refine h.bind (h.within_display outlets _ _) (fun _ ↦ ?_) _
      exact h.refl

/-- Working outlets in particular. -/
theorem within_dispatchWith (command : Command) :
    Within R (shell.dispatchWith nested command) :=
  h.within_outletsDispatchWith hnested .working command

omit hnested in
theorem within_execLines {dispatch : Command → Action CommandResult}
    (hdispatch : ∀ command, Within R (dispatch command)) (last : CommandResult)
    (texts : List String) : Within R (execLines dispatch last texts) := by
  induction texts generalizing last with
  | nil => exact h.refl
  | cons text rest ih =>
    intro state
    rw [Action.finalState, execLines_cons_apply]
    split_ifs
    · exact h.refl state
    · cases Command.parse? text with
      | none => exact ih last state
      | some command =>
        dsimp only
        have hfirst := hdispatch command state
        rw [Action.finalState] at hfirst
        cases hrun : dispatch command state with
        | ok result middle =>
          rw [hrun] at hfirst
          exact h.trans hfirst (ih result middle)
        | error fault middle =>
          rw [hrun] at hfirst
          exact hfirst

omit hnested in
/-- Executing a text stays within the relation, by induction on the levels that are left. -/
theorem within_outletsExecWithin (outlets : Outlets) (levels : Nat) (text : String) :
    Within R (outlets.execWithin shell levels text) := by
  induction levels generalizing text with
  | zero => exact h.refl
  | succ levels ih =>
    exact h.within_execLines (h.within_outletsDispatchWith ih outlets) {} (lines text)

omit hnested in
theorem within_execWithin (levels : Nat) (text : String) :
    Within R (shell.execWithin levels text) :=
  h.within_outletsExecWithin .working levels text

omit hnested in
/-- **What holds across each portion of an execution holds across the execution.** -/
theorem within_exec (text : String) : Within R (shell.exec text) :=
  h.within_execWithin _ text

end Shell.Admits

/-! ## Moments -/

/-- What a shell is about. -/
inductive Activity where
  /-- Executing texts, one after the other, whether or not they end with a fault. -/
  | texts (texts : List String)
  /-- Executing lines, whose commands may nest so deeply. -/
  | lines (levels : Nat) (texts : List String)
  /-- Carrying out a command. -/
  | command (levels : Nat) (command : Command)
  /-- Running what is left of the procedure for a command. -/
  | procedure (levels : Nat) (name : String) (procedure : Procedure)

/-- A moment of a run: an activity that begins in a state. -/
structure Moment where
  activity : Activity
  state : State

/-- Whether an activity begins with another one, or goes on with it after what it began with. -/
inductive Shell.Follows (shell : Shell) : Moment → Moment → Prop
  | text {text : String} {rest : List String} {state : State} :
      Follows shell ⟨.texts (text :: rest), state⟩ ⟨.lines maxNesting (lines text), state⟩
  | nextText {text : String} {rest : List String} {state : State} :
      Follows shell ⟨.texts (text :: rest), state⟩
        ⟨.texts rest, (shell.exec text).finalState state⟩
  | blank {levels : Nat} {text : String} {rest : List String} {state : State} :
      state.exitStatus = none → Command.parse? text = none →
      Follows shell ⟨.lines levels (text :: rest), state⟩ ⟨.lines levels rest, state⟩
  | line {levels : Nat} {text : String} {rest : List String} {state : State} {command : Command} :
      state.exitStatus = none → Command.parse? text = some command →
      Follows shell ⟨.lines levels (text :: rest), state⟩ ⟨.command levels command, state⟩
  | nextLine {levels : Nat} {text : String} {rest : List String} {state after : State}
      {command : Command} {result : CommandResult} :
      state.exitStatus = none → Command.parse? text = some command →
      shell.dispatchWith (shell.execWithin levels) command state = .ok result after →
      Follows shell ⟨.lines levels (text :: rest), state⟩ ⟨.lines levels rest, after⟩
  | call {levels : Nat} {command : Command} {handler : Handler} {state : State} :
      (command.plan.prepare state.session.cwd state.host).1 = .ok () →
      shell.commands.find? command.name = some handler →
      Follows shell ⟨.command levels command, state⟩
        ⟨.procedure levels command.name (handler command.args),
          logged (.called command.name command.args) (prepared command.plan state)⟩
  | requestExit {levels : Nat} {name : String} {code : Int} {next : Procedure} {state : State} :
      Follows shell ⟨.procedure levels name (.requestExit code next), state⟩
        ⟨.procedure levels name next, { state with exitStatus := some code }⟩
  | nested {levels : Nat} {name text : String} {next : Except Fault CommandResult → Procedure}
      {state : State} :
      Follows shell ⟨.procedure (levels + 1) name (.exec text next), state⟩
        ⟨.lines levels (lines text), state⟩
  | answered {levels : Nat} {name text : String} {next : Except Fault CommandResult → Procedure}
      {state after : State} {answer : Except Fault CommandResult} :
      Action.attempt (shell.execWithin levels text) state = .ok answer after →
      Follows shell ⟨.procedure levels name (.exec text next), state⟩
        ⟨.procedure levels name (next answer), after⟩
  | session {levels : Nat} {name : String} {next : Session → Procedure} {state : State} :
      Follows shell ⟨.procedure levels name (.session next), state⟩
        ⟨.procedure levels name (next state.session), state⟩
  | resolve {levels : Nat} {name other : String} {next : Resolution → Procedure} {state : State} :
      Follows shell ⟨.procedure levels name (.resolve other next), state⟩
        ⟨.procedure levels name (next (shell.resolve state other)), state⟩
  | stat {levels : Nat} {name path : String} {next : Option Node → Procedure} {state : State} :
      Follows shell ⟨.procedure levels name (.stat path next), state⟩
        ⟨.procedure levels name (next (state.host.stat? path)), state⟩
  | chdir {levels : Nat} {name path : String} {next : Except PathError Unit → Procedure}
      {state after : State} {answer : Except PathError Unit} :
      Action.chdir path state = .ok answer after →
      Follows shell ⟨.procedure levels name (.chdir path next), state⟩
        ⟨.procedure levels name (next answer), after⟩

/-- Whether a moment comes up in a run that begins with another one. -/
def Shell.Leads (shell : Shell) : Moment → Moment → Prop :=
  Relation.ReflTransGen shell.Follows

/-! ## Calls in a run -/

/-- Whether the calls that are written down from a moment up to a later state come up as moments. -/
def Moment.Accounts (shell : Shell) (moment : Moment) (after : State) : Prop :=
  ∃ added, after.journal = moment.state.journal ++ added ∧
    ∀ name args, Event.called name args ∈ added → ∃ levels plan state,
      shell.Leads moment ⟨.command levels ⟨name, args, plan⟩, state⟩

namespace Moment.Accounts

variable {shell : Shell} {moment next : Moment} {after : State}

theorem of_journal_eq (h : after.journal = moment.state.journal) :
    moment.Accounts shell after :=
  ⟨[], by rw [h, List.append_nil], fun _ _ hadded ↦ absurd hadded List.not_mem_nil⟩

/-- Another moment goes on where one left off. -/
theorem trans (h : moment.Accounts shell next.state) (hleads : shell.Leads moment next)
    (hnext : next.Accounts shell after) : moment.Accounts shell after := by
  obtain ⟨first, hfirst, hcalls⟩ := h
  obtain ⟨second, hsecond, hcalls'⟩ := hnext
  refine ⟨first ++ second, by rw [hsecond, hfirst, List.append_assoc], fun name args hadded ↦ ?_⟩
  rcases List.mem_append.mp hadded with hadded | hadded
  · exact hcalls name args hadded
  · obtain ⟨levels, plan, state, hcommand⟩ := hcalls' name args hadded
    exact ⟨levels, plan, state, hleads.trans hcommand⟩

/-- A moment that follows without anything having been started in between. -/
theorem step (hfollows : shell.Follows moment next)
    (hjournal : next.state.journal = moment.state.journal) (hnext : next.Accounts shell after) :
    moment.Accounts shell after :=
  (of_journal_eq hjournal).trans (.single hfollows) hnext

end Moment.Accounts

namespace Shell

open Moment (Accounts)

variable {shell : Shell} {levels : Nat}

section

variable (hnested : ∀ name text next state,
  Accounts shell ⟨.procedure levels name (.exec text next), state⟩
    ((shell.execWithin levels text).finalState state))
include hnested

/-- A procedure accounts for the calls of the texts that it executes, by induction on it. -/
theorem accounts_runProcedure (name : String) (procedure : Procedure) (state : State) :
    Accounts shell ⟨.procedure levels name procedure, state⟩
      ((shell.runProcedure (shell.execWithin levels) name procedure).finalState state) := by
  induction procedure generalizing state with
  | reply | refuse | crash => exact .of_journal_eq rfl
  | requestExit code next ih => exact .step .requestExit rfl (ih _)
  | exec text next ih =>
    obtain ⟨answer, after, hattempt, hafter⟩ : ∃ answer after,
        Action.attempt (shell.execWithin levels text) state = .ok answer after ∧
        (shell.execWithin levels text).finalState state = after := by
      rw [Action.attempt, Action.finalState]
      cases shell.execWithin levels text state <;> exact ⟨_, _, rfl, rfl⟩
    have hfirst := hnested name text next state
    rw [hafter] at hfirst
    rw [runProcedure, Action.finalState_bind, hattempt]
    exact hfirst.trans (.single (.answered hattempt)) (ih answer after)
  | session next ih =>
    rw [runProcedure, Action.finalState_get_bind]
    exact .step .session rfl (ih state.session state)
  | resolve other next ih =>
    rw [runProcedure, Action.finalState_get_bind]
    exact .step .resolve rfl (ih (shell.resolve state other) state)
  | stat path next ih =>
    rw [runProcedure, Action.finalState_get_bind]
    exact .step .stat rfl (ih (state.host.stat? path) state)
  | chdir path next ih =>
    rw [runProcedure, Action.finalState_bind]
    cases henter : state.enter path with
    | ok after =>
      have hrun := Action.chdir_of_enter_eq_ok henter
      obtain ⟨here, rfl⟩ := State.exists_of_enter henter
      rw [hrun]
      exact .step (.chdir hrun) rfl (ih (.ok ()) _)
    | error e =>
      have hrun := Action.chdir_of_enter_eq_error henter
      rw [hrun]
      exact .step (.chdir hrun) rfl (ih (.error e) state)

theorem accounts_dispatchWith (command : Command) (state : State) :
    Accounts shell ⟨.command levels command, state⟩
      ((shell.dispatchWith (shell.execWithin levels) command).finalState state) := by
  cases hprepare : (command.plan.prepare state.session.cwd state.host).1 with
  | error e =>
    cases e with
    | hasNul =>
      rw [Action.finalState, dispatchWith_apply_of_hasNul hprepare]
      exact .of_journal_eq rfl
    | refused path reason =>
      rw [Action.finalState_of_ok (dispatchWith_apply_of_refused hprepare)]
      exact .of_journal_eq rfl
  | ok =>
    have hjournal :
        ((shell.dispatchWith (shell.execWithin levels) command).finalState state).journal
        = ((shell.perform (shell.execWithin levels) command state.session.cwd).finalState
          (prepared command.plan state)).journal := journal_dispatchWith _ hprepare
    -- Which command it is decides what is written down next.
    cases hresolve : shell.resolve (prepared command.plan state) command.name with
    | builtin =>
      obtain ⟨handler, hfind⟩ := shell.resolve_eq_builtin_iff.mp hresolve
      obtain ⟨result, after, hrun, hperform⟩ := exists_perform_of_handler (shell.execWithin levels)
        hfind state.session.cwd (prepared command.plan state)
      have hprocedure := accounts_runProcedure hnested command.name (handler command.args)
        (logged (.called command.name command.args) (prepared command.plan state))
      rw [Action.finalState_of_ok hrun] at hprocedure
      rw [Action.finalState_of_ok hperform] at hjournal
      obtain ⟨added, hadded, hcalls⟩ := hprocedure
      refine ⟨.called command.name command.args :: added, ?_, fun name args hmem ↦ ?_⟩
      · rw [hjournal, hadded]
        exact List.append_assoc _ [_] added
      · rcases List.mem_cons.mp hmem with hcall | hmem
        · obtain ⟨rfl, rfl⟩ := Event.called.inj hcall
          exact ⟨levels, command.plan, state, .refl⟩
        · obtain ⟨inner, plan, middle, hleads⟩ := hcalls name args hmem
          exact ⟨inner, plan, middle, .head (.call hprepare hfind) hleads⟩
    | external path =>
      have hlaunch := perform_of_external (shell.execWithin levels) hresolve state.session.cwd
      have hperformed : ((shell.perform (shell.execWithin levels) command
          state.session.cwd).finalState (prepared command.plan state)).journal
            = state.journal ++ [.launched (launchFor command path state.session.cwd)] := by
        rw [Action.finalState, hlaunch, ← Action.finalState, finalState_ofOutcome]
        rfl
      refine ⟨_, hjournal.trans hperformed, fun _ _ hmem ↦ ?_⟩
      exact absurd (List.mem_singleton.mp hmem) Event.noConfusion
    | notFound =>
      rw [Action.finalState_of_ok (perform_of_notFound _ hresolve _)] at hjournal
      exact .of_journal_eq hjournal

theorem accounts_execLines (last : CommandResult) (texts : List String) (state : State) :
    Accounts shell ⟨.lines levels texts, state⟩
      ((execLines (shell.dispatchWith (shell.execWithin levels)) last texts).finalState state) := by
  induction texts generalizing last state with
  | nil => exact .of_journal_eq rfl
  | cons text rest ih =>
    rw [Action.finalState, execLines_cons_apply]
    cases hexit : state.exitStatus with
    | some code => exact .of_journal_eq rfl
    | none =>
      rw [Option.isSome_none, if_neg Bool.false_ne_true]
      cases hparse : Command.parse? text with
      | none => exact .step (.blank hexit hparse) rfl (ih last state)
      | some command =>
        have hcommand := accounts_dispatchWith hnested command state
        rw [Action.finalState] at hcommand
        dsimp only
        have hfollows : shell.Follows ⟨.lines levels (text :: rest), state⟩
            ⟨.command levels command, state⟩ := .line hexit hparse
        have hline := Accounts.step hfollows rfl hcommand
        cases hdispatch : shell.dispatchWith (shell.execWithin levels) command state with
        | ok result after =>
          rw [hdispatch] at hline
          exact hline.trans (.single (.nextLine hexit hparse hdispatch)) (ih result after)
        | error fault after =>
          rw [hdispatch] at hline
          exact hline

end

/-- A text that is executed one level deeper is accounted for, by induction on the levels that are
left. -/
theorem accounts_nested (levels : Nat) (name text : String)
    (next : Except Fault CommandResult → Procedure) (state : State) :
    Accounts shell ⟨.procedure levels name (.exec text next), state⟩
      ((shell.execWithin levels text).finalState state) := by
  induction levels generalizing name text next state with
  | zero => exact .of_journal_eq rfl
  | succ levels ih => exact .step .nested rfl (accounts_execLines ih {} (lines text) state)

/-- **A run accounts for its calls.** When texts are executed one after the other, every call that
is written down comes up as a moment of the run. -/
theorem accounts_texts (texts : List String) (state : State) :
    Accounts shell ⟨.texts texts, state⟩
      (texts.foldl (fun state text ↦ (shell.exec text).finalState state) state) := by
  induction texts generalizing state with
  | nil => exact .of_journal_eq rfl
  | cons text rest ih =>
    have hfirst : Accounts shell ⟨.texts (text :: rest), state⟩
        ((shell.exec text).finalState state) :=
      .step .text rfl (accounts_execLines (accounts_nested maxNesting) {} (lines text) state)
    exact hfirst.trans (.single .nextText) (ih _)

end Shell

end LineShell
