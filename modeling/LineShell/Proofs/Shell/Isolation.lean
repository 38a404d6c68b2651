import LineShell.Proofs.Machine.Launching
import LineShell.Proofs.Shell.Course

/-!
# Isolated sessions

A session that does not follow the process, and whose working directory and home are named by
absolute paths, works in a place of its own: every path that a shell makes up for it begins at the
root. So it does not matter where the process is. What a shell does in such a session is the same
wherever it is done from, and it leaves the process where it is (`Action.PlacelessAt`).

That is an equation between two runs, which has to be carried along with the isolation of the
session: the equation for what is done next is known in isolated sessions only. It is also where a
command that enters a directory by a relative path would break it, so the commands of the shell are
asked to look at and to enter absolute paths only, in the sessions that they are shown.

Two runs of the same operations from two places are then both the run from a third place, moved
(`Shell.operateAll_eq_of_isIsolated`), and neither has moved the process.
-/

namespace LineShell

/-- The same state, with the process somewhere else. -/
def State.movedTo (here : Place) (state : State) : State :=
  { state with host := state.host.movedTo here }

/-- Sessions that depend neither on the working directory of the process nor change it. -/
structure Session.IsIsolated (session : Session) : Prop extends session.IsRooted where
  followProcess : session.followProcess = false

/-! ## Actions -/

namespace Action

variable {α β : Type}

/-- Whether an action comes to the same in a state wherever the process is, and ends in an isolated
session. -/
structure PlacelessAt (action : Action α) (state : State) : Prop where
  apply_movedTo : ∀ here,
    action (state.movedTo here) = mapState (State.movedTo here) (action state)
  isIsolated : (action.finalState state).session.IsIsolated

/-- Whether that is so in all isolated sessions. -/
def Placeless (action : Action α) : Prop :=
  ∀ state, state.session.IsIsolated → action.PlacelessAt state

variable {action : Action α} {next : α → Action β} {state : State}

namespace PlacelessAt

theorem bind (h : action.PlacelessAt state) (hnext : ∀ value, (next value).Placeless) :
    (action >>= next).PlacelessAt state := by
  -- What comes next starts in the session that the action ends in, which has to be isolated too.
  have hisolated := h.isIsolated
  rw [finalState] at hisolated
  refine ⟨fun here ↦ ?_, ?_⟩
  · rw [bind_apply, bind_apply, h.apply_movedTo]
    cases hrun : action state with
    | ok value after =>
      rw [hrun] at hisolated
      exact (hnext value after hisolated).apply_movedTo here
    | error fault after => rfl
  · rw [finalState_bind]
    cases hrun : action state with
    | ok value after =>
      rw [hrun] at hisolated
      exact (hnext value after hisolated).isIsolated
    | error fault after =>
      rw [hrun] at hisolated
      exact hisolated

theorem get_bind {next : State → Action β} (hsame : ∀ here, next (state.movedTo here) = next state)
    (hnext : (next state).PlacelessAt state) : (get >>= next).PlacelessAt state where
  apply_movedTo := by
    intro here
    rw [get_bind_apply, get_bind_apply, hsame]
    exact hnext.apply_movedTo here
  isIsolated := hnext.isIsolated

/-- An action that comes to another one, in a state and wherever the process is. -/
theorem of_eq {other : Action α} {after : State} (h : other.PlacelessAt after)
    (hself : action state = other after)
    (hmoved : ∀ here, action (state.movedTo here) = other (after.movedTo here)) :
    action.PlacelessAt state where
  apply_movedTo := by
    intro here
    rw [hmoved, hself]
    exact h.apply_movedTo here
  isIsolated := by
    rw [finalState, hself]
    exact h.isIsolated

end PlacelessAt

namespace Placeless

theorem pure (value : α) : (Pure.pure value : Action α).Placeless :=
  fun _ hstate ↦ ⟨fun _ ↦ rfl, hstate⟩

theorem throw (fault : Fault) : (throw fault : Action α).Placeless :=
  fun _ hstate ↦ ⟨fun _ ↦ rfl, hstate⟩

theorem bind (h : action.Placeless) (hnext : ∀ value, (next value).Placeless) :
    (action >>= next).Placeless :=
  fun state hstate ↦ (h state hstate).bind hnext

theorem attempt (h : action.Placeless) : (Action.attempt action).Placeless := by
  intro state hstate
  have hisolated := (h state hstate).isIsolated
  rw [finalState] at hisolated
  refine ⟨fun here ↦ ?_, ?_⟩
  · rw [Action.attempt, Action.attempt, (h state hstate).apply_movedTo]
    cases action state <;> rfl
  · rw [finalState, Action.attempt]
    cases hrun : action state <;> (rw [hrun] at hisolated; exact hisolated)

end Placeless

/-! ### Primitive actions -/

theorem placeless_requestExit (code : Int) : (requestExit code).Placeless :=
  fun _ hstate ↦ ⟨fun _ ↦ rfl, hstate⟩

theorem placeless_display (stream : Stream) (output : Output) :
    (display stream output).Placeless :=
  fun _ hstate ↦ ⟨fun _ ↦ rfl, hstate⟩

theorem placeless_record (event : Event) : (record event).Placeless :=
  fun _ hstate ↦ ⟨fun _ ↦ rfl, hstate⟩

/-- A session that the process does not follow moves alone, wherever it is told to go. -/
theorem chdir_of_not_follows {state : State} (h : state.session.followProcess = false)
    (path : String) :
    chdir path state =
      .ok (.ok ()) { state with session := { state.session with cwd := path } } := by
  rw [chdir, State.enter, h]
  rfl

/-- Entering an absolute directory leaves an isolated session isolated. -/
theorem placeless_chdir {path : String} (h : Path.isAbsolute path = true) :
    (chdir path).Placeless := by
  intro state hstate
  have hrun := chdir_of_not_follows hstate.followProcess path
  refine ⟨fun here ↦ ?_, ?_⟩
  · have hmoved : (state.movedTo here).session.followProcess = false := hstate.followProcess
    rw [hrun, chdir_of_not_follows hmoved]
    rfl
  · rw [finalState_of_ok hrun]
    exact ⟨⟨h, hstate.home⟩, hstate.followProcess⟩

end Action

open LineShell.Action (Placeless)

/-! ## Executions -/

/-- Shells whose commands, in the sessions that they are shown, look at and enter only absolute
paths. -/
def Shell.Grounded (shell : Shell) : Prop :=
  ∀ {name handler}, shell.commands.find? name = some handler → ∀ args,
    (handler args).Confined Session.IsRooted (Path.isAbsolute · = true) (Path.isAbsolute · = true)

namespace Shell

namespace Grounded

/-- The commands that every shell knows are such. -/
theorem standard (launcher : Launcher) : Shell.Grounded { launcher } := by
  intro name handler hfind args
  have hentry := CommandTable.mem_of_find? hfind
  by_cases hname : name = "cd"
  · subst hname
    obtain rfl : Builtin.cd = handler := Option.some.inj hfind
    refine Builtin.confined_cd (fun session hsession location ↦ ?_) args
    have habsolute := (Session.isSettled_expand hsession location).isAbsolute
    exact ⟨habsolute, habsolute⟩
  · exact Builtin.confined_of_mem_standardCommands hentry hname args

/-- Registering further ones keeps a shell such. -/
theorem insert {shell : Shell} (h : shell.Grounded) (name : String) {handler : Handler}
    (hhandler : ∀ args, (handler args).Confined Session.IsRooted (Path.isAbsolute · = true)
      (Path.isAbsolute · = true)) :
    Shell.Grounded { shell with commands := shell.commands.insert name handler } := by
  intro other command hfind args
  rw [CommandTable.find?_insert] at hfind
  split_ifs at hfind
  · rw [← Option.some.inj hfind]
    exact hhandler args
  · exact h hfind args

end Grounded

theorem resolve_movedTo (shell : Shell) {state : State}
    (h : Path.isAbsolute state.session.cwd = true) (here : Place) (name : String) :
    shell.resolve (state.movedTo here) name = shell.resolve state name :=
  resolveName_movedTo h state.host here _ name

theorem prepared_movedTo (plan : Redirection.Plan) {state : State}
    (h : Path.isAbsolute state.session.cwd = true) (here : Place) :
    prepared plan (state.movedTo here) = (prepared plan state).movedTo here := by
  have hprepare := Redirection.prepareTargets_movedTo h state.host here plan.targets
  exact congrArg (fun outcome ↦ { state with host := outcome.2 }) hprepare

/-! ### Delivery -/

section Delivery

variable {cwd : String} (h : Path.isAbsolute cwd = true)
include h

theorem placeless_deliver (stream : Stream) (output : Output)
    (target? : Option Redirection.Target) : (deliver stream output target? cwd).Placeless := by
  cases target? with
  | none =>
    rw [deliver_none]
    exact Action.placeless_display stream output
  | some target =>
    rw [deliver_some]
    intro state hstate
    refine ⟨fun here ↦ ?_, ?_⟩
    · rw [Action.get_bind_apply, Action.get_bind_apply, State.movedTo,
        Redirection.writeTarget_movedTo h]
      cases Redirection.writeTarget target output.toBytes cwd state.host with
      | ok written => rfl
      | error e => cases e <;> rfl
    · rw [Action.finalState, Action.get_bind_apply]
      cases Redirection.writeTarget target output.toBytes cwd state.host with
      | ok written => exact hstate
      | error e => cases e <;> exact hstate

theorem placeless_deliverAll (performed : Performed) (plan : Redirection.Plan) :
    (deliverAll performed plan cwd).Placeless := by
  have hstream : ∀ stream, (deliverOutput performed plan cwd stream).Placeless := by
    intro stream
    rw [deliverOutput]
    cases performed.output stream with
    | none => exact .pure ()
    | some output => exact placeless_deliver h stream output _
  exact (hstream .stdout).bind fun _ ↦ hstream .stderr

end Delivery

/-! ### Commands -/

variable {shell : Shell} {nested : String → Action CommandResult}
  (hnested : ∀ text, (nested text).Placeless)
include hnested

/-- Running a procedure that is confined to absolute paths, by induction on the procedure. -/
theorem placeless_runProcedure {procedure : Procedure}
    (h : procedure.Confined Session.IsRooted (Path.isAbsolute · = true)
      (Path.isAbsolute · = true)) (name : String) :
    (shell.runProcedure nested name procedure).Placeless := by
  induction h with
  | reply | refuse | crash => exact .pure _
  | requestExit code _ ih => exact (Action.placeless_requestExit code).bind fun _ ↦ ih
  | exec text _ ih => exact (hnested text).attempt.bind ih
  | session _ ih =>
    exact fun state hstate ↦
      .get_bind (fun _ ↦ rfl) (ih state.session hstate.toIsRooted state hstate)
  | resolve other _ ih =>
    refine fun state hstate ↦ .get_bind (fun here ↦ ?_) (ih _ state hstate)
    rw [resolve_movedTo shell hstate.cwd]
  | @stat path next hpath _ ih =>
    refine fun state hstate ↦ .get_bind (fun here ↦ ?_) (ih _ state hstate)
    rw [State.movedTo, Host.stat?_movedTo hpath]
  | chdir hpath _ ih => exact (Action.placeless_chdir hpath).bind ih

omit hnested in
theorem placeless_ofOutcome (command : Command) (outcome : Except LaunchError Finished) :
    (ofOutcome command outcome).Placeless := by
  cases outcome with
  | ok finished => exact .pure _
  | error e =>
    cases e with
    | notStarted failure => exact .pure _
    | hasNul => exact .throw _
    | refused message => exact .throw _

variable (hshell : shell.Grounded) (hlauncher : shell.launcher.Placeless)
include hshell hlauncher

theorem placeless_perform (command : Command) {cwd : String} (hcwd : Path.isAbsolute cwd = true) :
    (shell.perform nested command cwd).Placeless := by
  cases hfind : shell.commands.find? command.name with
  | some handler =>
    simp only [perform, hfind]
    refine (Action.placeless_record _).bind fun _ ↦ ?_
    exact (placeless_runProcedure hnested (hshell hfind command.args) command.name).bind fun _ ↦
      .pure _
  | none =>
    intro state hstate
    have hresolve := fun here ↦ shell.resolve_movedTo hstate.cwd here command.name
    cases hmeans : shell.resolve state command.name with
    | builtin =>
      obtain ⟨handler, hhandler⟩ := shell.resolve_eq_builtin_iff.mp hmeans
      rw [hfind] at hhandler
      contradiction
    | external path =>
      let launch := launchFor command path cwd
      let launched : State :=
        { logged (.launched launch) state with host := (shell.launcher state.host launch).2 }
      have hlaunch := fun here ↦ hlauncher state.host launch here hcwd
      refine .of_eq (placeless_ofOutcome command _ launched hstate)
        (perform_of_external nested hmeans cwd) fun here ↦ ?_
      rw [perform_of_external nested ((hresolve here).trans hmeans), State.movedTo, hlaunch here]
      rfl
    | notFound =>
      exact .of_eq (Placeless.pure _ state hstate) (perform_of_notFound nested hmeans cwd)
        fun here ↦ perform_of_notFound nested ((hresolve here).trans hmeans) cwd

theorem placeless_dispatchWith (command : Command) :
    (shell.dispatchWith nested command).Placeless := by
  intro state hstate
  have hprepared := fun here ↦ prepared_movedTo command.plan hstate.cwd here
  have hsame : ∀ here, (command.plan.prepare (state.movedTo here).session.cwd
      (state.movedTo here).host).1 = (command.plan.prepare state.session.cwd state.host).1 := by
    intro here
    have hprepare := Redirection.prepareTargets_movedTo hstate.cwd state.host here
      command.plan.targets
    exact (congrArg Prod.fst hprepare :)
  -- Preparing ends alike from everywhere, so both runs take the same way from here.
  cases hprepare : (command.plan.prepare state.session.cwd state.host).1 with
  | ok =>
    have hrest : (do
        let performed ← shell.perform nested command state.session.cwd
        deliverAll performed command.plan state.session.cwd
        return performed.result : Action CommandResult).Placeless :=
      (placeless_perform hnested hshell hlauncher command hstate.cwd).bind fun performed ↦
        (placeless_deliverAll hstate.cwd performed command.plan).bind fun _ ↦ .pure _
    refine .of_eq (hrest (prepared command.plan state) hstate)
      (dispatchWith_apply_of_prepared _ _ _ hprepare) fun here ↦ ?_
    rw [dispatchWith_apply_of_prepared _ _ _ ((hsame here).trans hprepare), hprepared here]
    rfl
  | error e =>
    cases e with
    | hasNul =>
      refine .of_eq (Placeless.throw .hasNul (prepared command.plan state) hstate)
        (dispatchWith_apply_of_hasNul hprepare) fun here ↦ ?_
      rw [dispatchWith_apply_of_hasNul ((hsame here).trans hprepare), hprepared here]
      rfl
    | refused path reason =>
      let told : State :=
        { prepared command.plan state with
          terminal := state.terminal.display .stderr
            (.text (shellMessage (path ++ ": " ++ reason.reason))) }
      refine .of_eq (Placeless.pure _ told hstate) (dispatchWith_apply_of_refused hprepare)
        fun here ↦ ?_
      rw [dispatchWith_apply_of_refused ((hsame here).trans hprepare), hprepared here]
      rfl

omit hnested hshell hlauncher in
theorem placeless_execLines {dispatch : Command → Action CommandResult}
    (hdispatch : ∀ command, (dispatch command).Placeless) (last : CommandResult)
    (texts : List String) : (execLines dispatch last texts).Placeless := by
  induction texts generalizing last with
  | nil => exact .pure last
  | cons text rest ih =>
    refine fun state hstate ↦ .get_bind (fun _ ↦ rfl) ?_
    split_ifs
    · exact Placeless.pure last state hstate
    · split
      · exact ih last state hstate
      · exact (hdispatch _ state hstate).bind fun result ↦ ih result

omit hnested in
/-- Executing a text, by induction on the levels that are left. -/
theorem placeless_execWithin (levels : Nat) (text : String) :
    (shell.execWithin levels text).Placeless := by
  induction levels generalizing text with
  | zero => exact .throw _
  | succ levels ih =>
    exact placeless_execLines (placeless_dispatchWith ih hshell hlauncher) {} (lines text)

end Shell

/-! ## Operations -/

/-- What a shell and the engine that completes for it can be asked. -/
inductive Operation where
  | exec (text : String)
  | resolve (name : String)
  | findExecutable (name : String)
  | candidates (start : String)
  | complete (line : String)

/-- What an operation gives. -/
inductive Response where
  | executed (outcome : Except Fault CommandResult)
  | resolved (resolution : Resolution)
  | executable (path? : Option String)
  | names (outcome : Except Fault (List String))
  | completion (outcome : Except Fault Completion)

/-- Where operations are carried out: a state of the shell, and what the engine remembers. -/
structure Desk where
  state : State
  engine : Engine := {}

/-- The same desk, with the process somewhere else. -/
def Desk.movedTo (here : Place) (desk : Desk) : Desk :=
  { desk with state := desk.state.movedTo here }

namespace Shell

/-- Carry out an operation. -/
def operate (shell : Shell) (desk : Desk) : Operation → Response × Desk
  | .exec text =>
    match shell.exec text desk.state with
    | .ok result state => (.executed (.ok result), { desk with state })
    | .error fault state => (.executed (.error fault), { desk with state })
  | .resolve name => (.resolved (shell.resolve desk.state name), desk)
  | .findExecutable name =>
    (.executable (LineShell.findExecutable desk.state.host desk.state.session name), desk)
  | .candidates start => (.names (shell.candidates desk.state start), desk)
  | .complete line =>
    let answer := shell.complete desk.state desk.engine line
    (.completion answer.1, { desk with engine := answer.2 })

/-- Carry out operations one after the other. -/
def operateAll (shell : Shell) (desk : Desk) : List Operation → List Response × Desk
  | [] => ([], desk)
  | operation :: rest =>
    let (response, desk) := shell.operate desk operation
    let (responses, desk) := shell.operateAll desk rest
    (response :: responses, desk)

theorem candidates_movedTo (shell : Shell) {state : State}
    (h : Path.isAbsolute state.session.cwd = true) (here : Place) :
    shell.candidates (state.movedTo here) = shell.candidates state :=
  funext fun start ↦ LineShell.candidates_movedTo h state.host here _ start

section

variable {shell : Shell} (hshell : shell.Grounded) (hlauncher : shell.launcher.Placeless)
include hshell hlauncher

/-- An operation is carried out alike from everywhere, and the session stays isolated. -/
theorem operate_movedTo {desk : Desk} (h : desk.state.session.IsIsolated) (operation : Operation) :
    (∀ here, shell.operate (desk.movedTo here) operation
      = ((shell.operate desk operation).1, (shell.operate desk operation).2.movedTo here)) ∧
    (shell.operate desk operation).2.state.session.IsIsolated := by
  cases operation with
  | exec text =>
    have hexec := placeless_execWithin hshell hlauncher (maxNesting + 1) text desk.state h
    have hisolated := hexec.isIsolated
    rw [← exec, Action.finalState] at hisolated
    have hmoved : ∀ here, shell.exec text (desk.movedTo here).state
        = Action.mapState (State.movedTo here) (shell.exec text desk.state) := hexec.apply_movedTo
    simp only [operate, hmoved]
    cases hrun : shell.exec text desk.state <;>
      exact ⟨fun here ↦ rfl, by rw [hrun] at hisolated; exact hisolated⟩
  | resolve name =>
    refine ⟨fun here ↦ ?_, h⟩
    rw [operate, operate, Desk.movedTo, shell.resolve_movedTo h.cwd]
  | findExecutable name =>
    refine ⟨fun here ↦ ?_, h⟩
    exact congrArg (fun path? ↦ (Response.executable path?, desk.movedTo here))
      (findExecutable_movedTo h.cwd desk.state.host here name)
  | candidates start =>
    refine ⟨fun here ↦ ?_, h⟩
    rw [operate, operate, Desk.movedTo, shell.candidates_movedTo h.cwd]
  | complete line =>
    refine ⟨fun here ↦ ?_, h⟩
    have hcomplete : shell.complete (desk.movedTo here).state (desk.movedTo here).engine line
        = shell.complete desk.state desk.engine line := by
      rw [complete, complete, Desk.movedTo, shell.candidates_movedTo h.cwd]
    simp only [operate, hcomplete]
    rfl

/-- Operations are carried out alike from everywhere, by induction on them. -/
theorem operateAll_movedTo {desk : Desk} (h : desk.state.session.IsIsolated)
    (operations : List Operation) (here : Place) :
    shell.operateAll (desk.movedTo here) operations
      = ((shell.operateAll desk operations).1,
        (shell.operateAll desk operations).2.movedTo here) := by
  induction operations generalizing desk with
  | nil => rfl
  | cons operation rest ih =>
    obtain ⟨hmoved, hisolated⟩ := operate_movedTo hshell hlauncher h operation
    rw [operateAll, operateAll, hmoved here]
    dsimp only
    rw [ih hisolated]

end

/-- **Isolated sessions do not depend on the process.** Let operations be carried out twice on the
same state of a shell, in a session that does not follow the process and whose working directory and
home are absolute, once with the process in one place and once in another. Both runs give the same
responses and end with the same desk but for the place of the process: the same session, the same
terminal, the same programs launched, the same files and the same memory of the engine. Neither run
moves the process. -/
theorem operateAll_eq_of_isIsolated (shell : Shell) (hshell : shell.Grounded)
    (hlauncher : shell.launcher.Placeless) (operations : List Operation) (start : Desk)
    (hrooted : Path.isAbsolute start.state.session.cwd = true)
    (hhome : Path.isAbsolute start.state.session.home = true)
    (hfollow : start.state.session.followProcess = false) (here there : Place) :
    let first := shell.operateAll (start.movedTo here) operations
    let second := shell.operateAll (start.movedTo there) operations
    second.1 = first.1 ∧ second.2 = first.2.movedTo there ∧
    first.2.state.host.cwd = here ∧ second.2.state.host.cwd = there := by
  have hmoved := operateAll_movedTo hshell hlauncher ⟨⟨hrooted, hhome⟩, hfollow⟩ operations
  dsimp only
  rw [hmoved here, hmoved there]
  exact ⟨rfl, rfl, rfl, rfl⟩

/-- Two runs that enter a directory below the session's own, write to a file there and look for a
program in a relative directory, from a place that exists and from one that does not. -/
theorem operateAll_eq_from_root_and_nowhere :
    let shell : Shell := { launcher := Machine.launcher [] }
    let start : Desk := { state := {
      session := { cwd := "/w", home := "/", searchPath := ["bin"] }
      host := { tree := ⟨[(["w"], .directory), (["w", "d"], .directory),
        (["w", "d", "bin"], .directory), (["w", "d", "bin", "ed"], .program "cat")]⟩ } } }
    let operations : List Operation :=
      [.exec "cd d", .exec "echo hi > f", .findExecutable "ed", .complete "e"]
    let first := shell.operateAll (start.movedTo []) operations
    let second := shell.operateAll (start.movedTo ["gone"]) operations
    shell.Grounded ∧ shell.launcher.Placeless ∧
    second.1 = first.1 ∧ second.2 = first.2.movedTo ["gone"] ∧
    first.2.state.host.tree.node? ["w", "d", "f"] = some (.file [104, 105, 10] false) := by
  intro shell start operations first second
  have hshell : shell.Grounded := Grounded.standard (Machine.launcher [])
  have hlauncher : shell.launcher.Placeless := Machine.launcher_placeless []
  obtain ⟨hresponses, hdesk, -⟩ := operateAll_eq_of_isIsolated shell hshell hlauncher operations
    start (by decide) (by decide) rfl [] ["gone"]
  exact ⟨hshell, hlauncher, hresponses, hdesk, by decide +kernel⟩

/-- A command that enters a relative directory takes its session out of the place of its own. What is
written next goes below the place of the process, and so to different files in two runs. -/
theorem operateAll_differs_after_relative_chdir :
    let sub : Handler := fun _ ↦ .chdir "sub" fun _ ↦ .reply {}
    let shell : Shell := {
      commands := standardCommands.insert "sub" sub
      launcher := Machine.launcher [] }
    let start : Desk := { state := {
      session := { cwd := "/", home := "/" }
      host := { tree := ⟨[(["sub"], .directory), (["w"], .directory),
        (["w", "sub"], .directory)]⟩ } } }
    let operations : List Operation := [.exec "sub", .exec "echo hi > f"]
    let first := shell.operateAll (start.movedTo []) operations
    let second := shell.operateAll (start.movedTo ["w"]) operations
    shell.launcher.Placeless ∧ start.state.session.IsIsolated ∧
    first.2.state.host.tree.node? ["sub", "f"] = some (.file [104, 105, 10] false) ∧
    first.2.state.host.tree.node? ["w", "sub", "f"] = none ∧
    second.2.state.host.tree.node? ["sub", "f"] = none ∧
    second.2.state.host.tree.node? ["w", "sub", "f"] = some (.file [104, 105, 10] false) :=
  ⟨Machine.launcher_placeless [], ⟨⟨by decide, by decide⟩, rfl⟩, by decide +kernel,
    by decide +kernel, by decide +kernel, by decide +kernel⟩

end Shell

end LineShell
