import LineShell.Proofs.Command.Characters
import LineShell.Proofs.Machine.Launching
import LineShell.Proofs.Shell.Entering

/-!
# Executions return

What goes wrong while a text is executed becomes a result or a message on the terminal: a target
that cannot be opened or written, a name that stands for nothing, a program that cannot be started,
a command that fails. A text that is executed one level too deep is a failure of the command that
asked for it. Two things are left that stop an execution (`Outlets.exec_returns`): output that
cannot leave the shell, which is said by the outlets, and a NUL character in a path.

## Where NUL characters come from

A command consists of the characters of its text (`Command.mem_of_parse?`), and the paths that it
leads to are built from its texts and from the working directory of the session. So if neither the
text nor the working directory has a NUL character at the start, one can only come up at a further
line, when a command has left the session in a directory that is named with one
(`Outlets.ReachesNul`). `cd` does not: where a path with a NUL character leads, nothing stands. Nor
does a command that enters no path with a NUL character by itself (`Shell.StaysPlain`).
-/

namespace LineShell

open LineShell.Action (Within)

/-! ## Directories without NUL characters -/

theorem Host.hasNul_of_canRun {host : Host} {path : String} (h : host.canRun path = true) :
    Path.hasNul path = false :=
  (canRun_iff.mp h).1

/-- Whether the working directory of the session is still named without NUL characters if it was
before. -/
def State.StaysPlain (before after : State) : Prop :=
  Path.hasNul before.session.cwd = false → Path.hasNul after.session.cwd = false

theorem State.admitsOutput_staysPlain : State.AdmitsOutput State.StaysPlain where
  refl := fun _ hplain ↦ hplain
  trans := fun h h' hplain ↦ h' (h hplain)
  terminal := fun _ _ hplain ↦ hplain
  write := fun _ _ _ hplain ↦ hplain

namespace Shell

/-- Shells no command of which takes a session into a directory that is named with a NUL character,
unless the texts that are executed for it do. -/
def StaysPlain (shell : Shell) : Prop :=
  ∀ {nested : String → Action CommandResult}, (∀ text, Within State.StaysPlain (nested text)) →
    ∀ {name handler}, shell.commands.find? name = some handler → ∀ args,
      Within State.StaysPlain (shell.runProcedure nested name (handler args))

namespace StaysPlain

variable {shell : Shell}

/-- Only what the commands do matters. -/
theorem admits (h : shell.StaysPlain) : shell.Admits State.StaysPlain where
  toAdmitsOutput := State.admitsOutput_staysPlain
  launch := fun _ _ hplain ↦ hplain
  call := fun hnested _ _ hfind args state hplain ↦
    h hnested hfind args (logged _ state) hplain

theorem within_runProcedure_cd (nested : String → Action CommandResult) (name : String)
    (args : List String) :
    Within State.StaysPlain (shell.runProcedure nested name (Builtin.cd args)) := by
  intro state hplain
  by_cases henter : state.CanEnter (state.session.expand (args.headD "~"))
  · rw [Action.finalState_of_ok (shell.runProcedure_cd_of_canEnter nested name henter)]
    exact henter.hasNul_eq_false
  · obtain ⟨message, hrun⟩ := shell.runProcedure_cd_of_not_canEnter nested name henter
    rw [Action.finalState_of_ok hrun]
    exact hplain

theorem within_chdir {path : String} (h : Path.hasNul path = false) :
    Within State.StaysPlain (Action.chdir path) := by
  intro state hplain
  cases henter : state.enter path with
  | error e =>
    rw [Action.finalState_of_ok (Action.chdir_of_enter_eq_error henter)]
    exact hplain
  | ok after =>
    rw [Action.finalState_of_ok (Action.chdir_of_enter_eq_ok henter)]
    obtain ⟨here, rfl⟩ := State.exists_of_enter henter
    exact h

/-- It is enough that each command is `cd` or enters only paths without NUL characters. -/
theorem of_confined (h : ∀ {name handler}, shell.commands.find? name = some handler →
      handler = Builtin.cd ∨ ∀ args, (handler args).Confined (fun _ ↦ True) (fun _ ↦ True)
        fun path ↦ Path.hasNul path = false) : shell.StaysPlain := by
  intro nested hnested name handler hfind args
  rcases h hfind with rfl | hconfined
  · exact within_runProcedure_cd nested name args
  · exact (hconfined args).within State.admitsOutput_staysPlain (fun _ _ hplain ↦ hplain)
      (fun _ ↦ within_chdir) hnested name

/-- Shells that move by `cd` are such. -/
theorem of_movesByCd (h : shell.MovesByCd) : shell.StaysPlain := by
  refine of_confined fun {name handler} hfind ↦ ?_
  by_cases hname : name = "cd"
  · rw [hname, h.find?_cd] at hfind
    exact Or.inl (Option.some.inj hfind).symm
  · exact Or.inr fun args ↦
      (h.stays hfind hname args).mono (fun _ _ ↦ trivial) (fun _ _ ↦ trivial) fun _ ↦ False.elim

end StaysPlain

/-- A program that a name leads to has a path without NUL characters. -/
theorem hasNul_of_resolve_eq_external {shell : Shell} {state : State} {name path : String}
    (h : shell.resolve state name = .external path) : Path.hasNul path = false := by
  rw [resolve, resolveName] at h
  split at h
  · contradiction
  · cases hfound : findExecutable state.host state.session name with
    | none =>
      rw [hfound] at h
      contradiction
    | some found =>
      rw [hfound] at h
      obtain rfl := Resolution.external.inj h
      exact Host.hasNul_of_canRun (canRun_of_findExecutable hfound)

end Shell

/-! ## Faults that an action can end with -/

namespace Action

variable {α β : Type} {expected : Fault → Prop}

/-- Whether an action ends with a value or with an expected fault. -/
def FaultsIn (expected : Fault → Prop) (action : Action α) : Prop :=
  ∀ state, (∃ value after, action state = .ok value after) ∨
    ∃ fault after, action state = .error fault after ∧ expected fault

theorem FaultsIn.pure (value : α) : FaultsIn expected (Pure.pure value) :=
  fun state ↦ Or.inl ⟨value, state, rfl⟩

theorem FaultsIn.throw {fault : Fault} (h : expected fault) :
    FaultsIn expected (throw fault : Action α) :=
  fun state ↦ Or.inr ⟨fault, state, rfl, h⟩

theorem FaultsIn.modify (change : State → State) :
    FaultsIn expected (modify change : Action Unit) :=
  fun state ↦ Or.inl ⟨(), change state, rfl⟩

theorem FaultsIn.get_bind {next : State → Action α} (h : ∀ state, FaultsIn expected (next state)) :
    FaultsIn expected (get >>= next) :=
  fun state ↦ h state state

theorem FaultsIn.bind {action : Action α} {next : α → Action β} (h : FaultsIn expected action)
    (hnext : ∀ value, FaultsIn expected (next value)) : FaultsIn expected (action >>= next) := by
  intro state
  rw [bind_apply]
  rcases h state with ⟨value, after, hrun⟩ | ⟨fault, after, hrun, hfault⟩
  · rw [hrun]
    exact hnext value after
  · rw [hrun]
    exact Or.inr ⟨fault, after, rfl, hfault⟩

end Action

open LineShell.Action (FaultsIn)

namespace Outlets

variable (outlets : Outlets)

/-- A fault that the outlets are behind. -/
def Expects (fault : Fault) : Prop :=
  ∃ message, fault = .output message ∧ outlets.Says message

theorem faultsIn_display (stream : Stream) (output : Output) :
    FaultsIn outlets.Expects (outlets.display stream output) := by
  rw [display]
  split_ifs
  · exact .pure ()
  · refine .get_bind fun state ↦ ?_
    rcases hwrite : outlets.write state.terminal stream output with ⟨terminal, refusal?⟩
    refine .bind (.modify _) fun _ ↦ ?_
    cases refusal? with
    | none => exact .pure ()
    | some message =>
      have hsays : outlets.Says message :=
        Or.inr ⟨state.terminal, stream, output, congrArg Prod.snd hwrite⟩
      exact .throw ⟨message, rfl, hsays⟩

theorem says_of_bytes_eq_error {output : Output} {message : String}
    (h : outlets.bytes output = .error message) : outlets.Says message := by
  cases output with
  | text content => exact Or.inl ⟨content, h⟩
  | bytes content => exact nomatch h

section Plain

variable {command : Command} {cwd : String}

/-- A target that cannot be written is reported, so only the outlets can stop a delivery to a target
without NUL characters. -/
theorem faultsIn_deliver (stream : Stream) (output : Output)
    {target? : Option Redirection.Target}
    (h : ∀ target, target? = some target → Path.hasNul (Path.anchor cwd target.path) = false) :
    FaultsIn outlets.Expects (outlets.deliver stream output target? cwd) := by
  cases target? with
  | none => exact outlets.faultsIn_display stream output
  | some target =>
    rw [deliver]
    cases hbytes : outlets.bytes output with
    | error message => exact .throw ⟨message, rfl, outlets.says_of_bytes_eq_error hbytes⟩
    | ok data =>
      refine .get_bind fun state ↦ ?_
      cases hwrite : Redirection.writeTarget target data cwd state.host with
      | ok host => exact .modify _
      | error e =>
        cases e with
        | hasNul =>
          rw [Redirection.writeTarget_eq_hasNul_iff, h target rfl] at hwrite
          contradiction
        | refused path reason => exact outlets.faultsIn_display .stderr _

variable {plan : Redirection.Plan}
  (hnul : ∀ target ∈ plan.targets, Path.hasNul (Path.anchor cwd target.path) = false)
include hnul

theorem faultsIn_deliver_target (stream : Stream) (output : Output) :
    FaultsIn outlets.Expects (outlets.deliver stream output (plan.target? stream) cwd) :=
  outlets.faultsIn_deliver stream output fun target htarget ↦
    hnul target (Redirection.mem_targets_iff.mpr ⟨stream, htarget⟩)

theorem faultsIn_emit (result : CommandResult) :
    FaultsIn outlets.Expects (outlets.emit result plan cwd) :=
  .bind (outlets.faultsIn_deliver_target hnul .stdout _) fun _ ↦
    outlets.faultsIn_deliver_target hnul .stderr _

theorem faultsIn_deliverCaptured (stream : Stream) (captured? : Option Bytes) :
    FaultsIn outlets.Expects
      (outlets.deliverCaptured stream captured? (plan.target? stream) cwd) := by
  have hdeliver := fun output ↦ outlets.faultsIn_deliver_target hnul stream output
  cases htarget : plan.target? stream with
  | none => exact .pure ()
  | some target =>
    cases captured? with
    | none => exact .pure ()
    | some captured =>
      rw [htarget] at hdeliver
      exact hdeliver (.bytes captured)

end Plain

/-! ## Dispatching returns -/

section Dispatch

variable {shell : Shell} (hlauncher : shell.launcher.Tries)
  (nested : String → Action CommandResult) {command : Command}
  (hcommand : ∀ text ∈ command.texts, Path.hasNul text = false)

include hcommand in
/-- The targets of a command without NUL characters are so in a directory that is. -/
theorem hasNul_target {cwd : String} (hcwd : Path.hasNul cwd = false) :
    ∀ target ∈ command.plan.targets, Path.hasNul (Path.anchor cwd target.path) = false :=
  fun target htarget ↦ Path.hasNul_anchor hcwd
    (hcommand target.path (List.mem_append_right _ (List.mem_map_of_mem htarget)))

theorem faultsIn_conclude {cwd : String}
    (hnul : ∀ target ∈ command.plan.targets, Path.hasNul (Path.anchor cwd target.path) = false)
    {outcome : Except LaunchError Finished} (h : Launch.Attempted outcome) :
    FaultsIn outlets.Expects (outlets.conclude command cwd outcome) := by
  cases outcome with
  | ok finished =>
    exact .bind (outlets.faultsIn_deliverCaptured hnul .stdout _) fun _ ↦
      .bind (outlets.faultsIn_deliverCaptured hnul .stderr _) fun _ ↦ .pure _
  | error e =>
    cases e with
    | notStarted failure => exact .bind (outlets.faultsIn_emit hnul _) fun _ ↦ .pure _
    | hasNul | refused => contradiction

include hlauncher hcommand

theorem faultsIn_runExternal {cwd : String} (hcwd : Path.hasNul cwd = false) :
    FaultsIn outlets.Expects (outlets.runExternal shell command cwd) := by
  have hnul := hasNul_target hcommand hcwd
  refine .get_bind fun state ↦ ?_
  cases hresolve : shell.resolve state command.name with
  | builtin | notFound => exact .bind (outlets.faultsIn_emit hnul _) fun _ ↦ .pure _
  | external path =>
    -- The program, the directory that it is to work in, and what it is called with.
    have hplain : Launch.IsPlain ⟨path, command.name :: command.args, command.plan.stdio, cwd⟩ := by
      intro text htext
      rcases List.mem_cons.mp htext with rfl | htext
      · exact Shell.hasNul_of_resolve_eq_external hresolve
      rcases List.mem_cons.mp htext with rfl | htext
      · exact hcwd
      · exact hcommand text (List.mem_append_left _ htext)
    refine .bind (.modify _) fun _ ↦ .get_bind fun launching ↦ .bind (.modify _) fun _ ↦ ?_
    exact outlets.faultsIn_conclude hnul (hlauncher launching.host _ hplain)

theorem faultsIn_runPrepared {cwd : String} (hcwd : Path.hasNul cwd = false) :
    FaultsIn outlets.Expects (outlets.runPrepared shell nested command cwd) := by
  rw [runPrepared]
  split
  · refine .bind (.modify _) fun _ ↦ .bind (fun state ↦ ?_) fun result ↦ ?_
    · exact Or.inl (shell.exists_runProcedure_eq_ok nested command.name _ state)
    · exact .bind (outlets.faultsIn_emit (hasNul_target hcommand hcwd) result) fun _ ↦ .pure _
  · exact outlets.faultsIn_runExternal hlauncher hcommand hcwd

/-- In a directory without NUL characters, a command without NUL characters has a result, unless the
outlets refuse something. -/
theorem dispatchWith_returns {state : State} (hcwd : Path.hasNul state.session.cwd = false) :
    (∃ result after, outlets.dispatchWith shell nested command state = .ok result after) ∨
      ∃ fault after, outlets.dispatchWith shell nested command state = .error fault after ∧
        outlets.Expects fault := by
  cases hprepare : (command.plan.prepare state.session.cwd state.host).1 with
  | ok =>
    rw [outlets.dispatchWith_apply_of_prepared shell nested hprepare]
    exact outlets.faultsIn_runPrepared hlauncher nested hcommand hcwd _
  | error e =>
    rw [outlets.dispatchWith_apply_of_error shell nested hprepare]
    cases e with
    | hasNul =>
      have hnul := hasNul_target hcommand hcwd
      exact absurd hprepare
        (Redirection.prepare_ne_hasNul fun target htarget _ ↦ hnul target htarget)
    | refused path reason =>
      refine (FaultsIn.bind (outlets.faultsIn_display .stderr _) fun _ ↦ ?_) _
      exact .pure _

end Dispatch

/-! ## Executing returns -/

variable (shell : Shell)

/-- Whether lines come, executed one after the other, to a line in a directory that is named with a
NUL character. -/
def LinesReachNul (dispatch : Command → Action CommandResult) (last : CommandResult)
    (texts : List String) (state : State) : Prop :=
  ∃ done left result middle, texts = done ++ left ∧ left ≠ [] ∧
    Shell.execLines dispatch last done state = .ok result middle ∧
    Path.hasNul middle.session.cwd = true

/-- Whether executing a text comes to a line in a directory that is named with a NUL character. -/
def ReachesNul (text : String) (state : State) : Prop :=
  LinesReachNul (outlets.dispatch shell) {} (Shell.lines text) state

variable {outlets shell} {dispatch : Command → Action CommandResult}
  {last result : CommandResult} {text : String} {texts : List String} {state after : State}

theorem LinesReachNul.of_hasNul (hcwd : Path.hasNul state.session.cwd = true) (h : texts ≠ []) :
    LinesReachNul dispatch last texts state :=
  ⟨[], texts, last, state, rfl, h, rfl, hcwd⟩

/-- A line that is executed goes before those that are left. -/
theorem LinesReachNul.cons
    (hline : ∀ done, Shell.execLines dispatch last (text :: done) state
      = Shell.execLines dispatch result done after)
    (h : LinesReachNul dispatch result texts after) :
    LinesReachNul dispatch last (text :: texts) state := by
  obtain ⟨done, left, final, middle, rfl, hleft, hdone, hcwd⟩ := h
  exact ⟨text :: done, left, final, middle, rfl, hleft, (hline done).trans hdone, hcwd⟩

/-- Lines without NUL characters are executed to the end, unless the outlets refuse something or a
line comes up in a directory with a NUL character, by induction on the lines. -/
theorem execLines_returns (hlauncher : shell.launcher.Tries)
    (nested : String → Action CommandResult) (htexts : ∀ text ∈ texts, Path.hasNul text = false)
    (last : CommandResult) (state : State) :
    (∃ result after, Shell.execLines (outlets.dispatchWith shell nested) last texts state
        = .ok result after) ∨
      (∃ fault after, Shell.execLines (outlets.dispatchWith shell nested) last texts state
        = .error fault after ∧ outlets.Expects fault) ∨
      LinesReachNul (outlets.dispatchWith shell nested) last texts state := by
  induction texts generalizing last state with
  | nil => exact Or.inl ⟨last, state, rfl⟩
  | cons text rest ih =>
    have hreturns := ih fun other hother ↦ htexts other (List.mem_cons_of_mem text hother)
    cases hcwd : Path.hasNul state.session.cwd with
    | true => exact Or.inr (Or.inr (.of_hasNul hcwd (List.cons_ne_nil text rest)))
    | false =>
      cases hexit : state.exitStatus.isSome with
      | true => exact Or.inl ⟨last, state, Shell.execLines_of_isSome _ hexit⟩
      | false =>
        cases hparse : Command.parse? text with
        | none =>
          rw [Shell.execLines_cons_of_none hexit hparse]
          exact (hreturns last state).imp_right
            (Or.imp_right (.cons (Shell.execLines_cons_of_none hexit hparse)))
        | some command =>
          have hcommand : ∀ part ∈ command.texts, Path.hasNul part = false := by
            intro part hpart
            rw [Path.hasNul_eq_false_iff]
            exact fun hnul ↦ Path.hasNul_eq_false_iff.mp (htexts text List.mem_cons_self)
              (Command.mem_of_parse? hparse hpart hnul)
          rcases outlets.dispatchWith_returns hlauncher nested hcommand hcwd with
            ⟨result, after, hdispatch⟩ | ⟨fault, after, hdispatch, hexpects⟩
          · rw [Shell.execLines_cons_of_ok hexit hparse hdispatch]
            exact (hreturns result after).imp_right
              (Or.imp_right (.cons (Shell.execLines_cons_of_ok hexit hparse hdispatch)))
          · exact Or.inr (Or.inl
              ⟨fault, after, Shell.execLines_cons_of_error hexit hparse hdispatch rest, hexpects⟩)

/-- No line comes up in such a directory if no command takes the session into one. -/
theorem not_reachesNul (hshell : shell.StaysPlain) (hcwd : Path.hasNul state.session.cwd = false) :
    ¬outlets.ReachesNul shell text state := by
  rintro ⟨done, left, result, middle, -, -, hdone, hnul⟩
  have hadmits := hshell.admits
  have hlines : Within State.StaysPlain (Shell.execLines (outlets.dispatch shell) {} done) :=
    hadmits.within_execLines
      (hadmits.within_outletsDispatchWith (hadmits.within_outletsExecWithin outlets _) outlets) {} done
  have hplain := hlines state hcwd
  rw [Action.finalState_of_ok hdone, hnul] at hplain
  contradiction

/-- **Executions return.** In a session whose working directory is named without NUL characters,
executing a text without NUL characters has a result, with two exceptions: the outlets refuse
something, and it is what they say that is raised; or a command has left the session in a directory
that is named with a NUL character, and a further line comes up there. This holds of all outlets, of
every launcher that tries what it is asked, of all commands, whatever they do and however they fail,
and of every state of the host. -/
theorem exec_returns (outlets : Outlets) (shell : Shell) (text : String) (state : State)
    (hcwd : Path.hasNul state.session.cwd = false) (htext : Path.hasNul text = false)
    (hlauncher : shell.launcher.Tries) :
    (∃ result after, outlets.exec shell text state = .ok result after) ∨
      (∃ message after, outlets.exec shell text state = .error (.output message) after ∧
        outlets.Says message) ∨
      (outlets.ReachesNul shell text state ∧ ¬shell.StaysPlain) := by
  have hlines : ∀ line ∈ Shell.lines text, Path.hasNul line = false := by
    intro line hline
    rw [Path.hasNul_eq_false_iff] at htext ⊢
    exact fun hnul ↦ htext (Shell.mem_of_mem_lines hline hnul)
  rcases outlets.execLines_returns hlauncher (outlets.execWithin shell Shell.maxNesting) hlines {}
    state with hreturns | ⟨_, after, hfault, message, rfl, hsays⟩ | hreaches
  · exact Or.inl hreturns
  · exact Or.inr (Or.inl ⟨message, after, hfault, hsays⟩)
  · exact Or.inr (Or.inr ⟨hreaches, fun hshell ↦ not_reachesNul hshell hcwd hreaches⟩)

/-- Commands that fail or execute text, a directory in the place of a target, a name that stands for
nothing, a program and an argument that is no number: all this has a result, if the outlets work. -/
theorem exec_returns_from_failures :
    let again : Handler := fun args ↦ .exec (" ".intercalate args) fun
      | .ok result => .reply result
      | .error fault => .crash fault.message
    let shell : Shell := {
      commands := (standardCommands.insert "again" again).insert "fail" fun _ ↦ .crash "no"
      launcher := Machine.launcher [] }
    let state : State := {
      session := { cwd := "/tmp", searchPath := ["/bin"], home := "/" }
      host := { tree := Machine.standardTree } }
    let text := "fail 2> /\nagain again fail > f\nnope\nls 2>> /dev/full\nexit 1x"
    Path.hasNul state.session.cwd = false ∧ Path.hasNul text = false ∧ shell.launcher.Tries ∧
    ∃ result after, working.exec shell text state = .ok result after := by
  intro again shell state text
  have hagain : ∀ args, (again args).Stays :=
    fun args ↦ .exec _ fun answer ↦ by cases answer <;> constructor
  have hcommands : shell.StaysPlain := Shell.StaysPlain.of_movesByCd
    (((Shell.MovesByCd.standard _).insert (by decide) hagain).insert (by decide)
      fun _ ↦ .crash "no")
  have hcwd : Path.hasNul state.session.cwd = false := by decide
  have htext : Path.hasNul text = false := by decide +kernel
  have hlauncher : shell.launcher.Tries := Machine.launcher_tries []
  refine ⟨hcwd, htext, hlauncher, ?_⟩
  rcases working.exec_returns shell text state hcwd htext hlauncher with
    hreturns | ⟨message, -, -, hsays⟩ | ⟨-, hstays⟩
  · exact hreturns
  · exact absurd hsays (not_says_working message)
  · exact (hstays hcommands).elim

/-- A text that has no bytes stops the execution where it is written to a file; a character stands in
here for half of a surrogate pair. So does a directory that is named with a NUL character, once a
command has entered it. Nothing of this is turned into a result. -/
theorem exec_stops_at_unwritable_text :
    let mute : Outlets := {
      encode := fun text ↦
        if text.toList.contains '\uE0FF' then .error "surrogates not allowed"
        else .ok (Utf8.encode text) }
    let shell : Shell := {
      commands := standardCommands.insert "enter" fun args ↦
        .chdir (args.headD "" ++ "\x00") fun _ ↦ .reply {}
      launcher := Machine.launcher [] }
    let state : State := { session := { cwd := "/", home := "/" } }
    Path.hasNul state.session.cwd = false ∧ Path.hasNul "echo \uE0FF > f" = false ∧
    Path.hasNul "enter a\necho hi > f" = false ∧ shell.launcher.Tries ∧
    (∃ after, mute.exec shell "echo \uE0FF > f" state
      = .error (.output "surrogates not allowed") after) ∧
    ∃ after, working.exec shell "enter a\necho hi > f" state = .error .hasNul after := by
  intro mute shell state
  refine ⟨by decide, by decide +kernel, by decide +kernel, Machine.launcher_tries [], ?_, ?_⟩
  · exact ⟨_, Action.eq_error_of_fault? (by decide +kernel)⟩
  · exact ⟨_, Action.eq_error_of_fault? (by decide +kernel)⟩

end Outlets

end LineShell
