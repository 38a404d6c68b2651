import LineShell.Proofs.Delivery
import LineShell.Proofs.Redirection.Arguments
import LineShell.Proofs.Shell.Keeping

/-!
# Performing a command apart from delivering its output

Dispatching a command interleaves three concerns. Its targets are prepared; it is performed, by a
procedure of the shell or a program of the host or not at all; and what it wrote is delivered. The
second concern has four endings with output of two kinds, and the third does not care which. Here
they are taken apart: `Shell.perform` carries a command out and hands its output over,
`Shell.deliverAll` delivers it, and dispatching is preparing, performing and delivering in this
order (`Shell.dispatchWith_apply_of_prepared`). What is proved of performing and of delivering
separately then holds of every ending at once.
-/

namespace LineShell

/-- The text of a result for a stream. -/
def CommandResult.text (result : CommandResult) : Stream → String
  | .stdout => result.stdout
  | .stderr => result.stderr

/-- What was captured of a stream. -/
def Finished.captured (finished : Finished) : Stream → Option Bytes
  | .stdout => finished.stdout
  | .stderr => finished.stderr

/-- What is left of a command that was performed. -/
structure Performed where
  result : CommandResult
  /-- What is to be delivered for each stream, if anything is. -/
  output : Stream → Option Output

namespace Performed

/-- A command of the shell hands over its texts. -/
def ofResult (result : CommandResult) : Performed :=
  ⟨result, fun stream ↦ some (.text (result.text stream))⟩

/-- A program hands over what was captured for a target; the rest it wrote itself. -/
def ofFinished (finished : Finished) (plan : Redirection.Plan) : Performed :=
  ⟨{ exitCode := finished.exitCode },
    fun stream ↦ if (plan.target? stream).isSome then (finished.captured stream).map .bytes
      else none⟩

theorem output_ofFinished (finished : Finished) (plan : Redirection.Plan) (stream : Stream) :
    (ofFinished finished plan).output stream =
      if (plan.target? stream).isSome then (finished.captured stream).map .bytes else none := rfl

end Performed

/-- Whether the outcome of a launch comes from trying: a program ran or could not be started, and
the request was not refused. -/
def Launch.Attempted : Except LaunchError Finished → Prop
  | .ok _ => True
  | .error (.notStarted _) => True
  | .error _ => False

namespace Shell

/-! ## Taking dispatch apart -/

/-- The request to launch a program for a command. -/
def launchFor (command : Command) (path cwd : String) : Launch :=
  ⟨path, command.name :: command.args, command.plan.stdio, cwd⟩

/-- What is left of a command whose program was asked to run. -/
def ofOutcome (command : Command) : Except LaunchError Finished → Action Performed
  | .ok finished => return .ofFinished finished command.plan
  | .error (.notStarted failure) =>
    return .ofResult (.failure (command.name ++ ": " ++ failure.reason) 126)
  | .error .hasNul => throw .hasNul
  | .error (.refused message) => throw (.launcher message)

/-- Perform a command and hand over its output. -/
def perform (shell : Shell) (nested : String → Action CommandResult) (command : Command)
    (cwd : String) : Action Performed := do
  match shell.commands.find? command.name with
  | some handler =>
    Action.record (.called command.name command.args)
    let result ← shell.runProcedure nested command.name (handler command.args)
    return .ofResult result
  | none =>
    match shell.resolve (← get) command.name with
    | .external path =>
      let launch := launchFor command path cwd
      Action.record (.launched launch)
      let (outcome, host) := shell.launcher (← get).host launch
      Action.setHost host
      ofOutcome command outcome
    | _ => return .ofResult (.failure (command.name ++ ": command not found") 127)

/-- Deliver what there is for a stream. -/
def deliverOutput (performed : Performed) (plan : Redirection.Plan) (cwd : String)
    (stream : Stream) : Action Unit :=
  match performed.output stream with
  | some output => deliver stream output (plan.target? stream) cwd
  | none => return ()

/-- Deliver the output of a command, the standard output first. -/
def deliverAll (performed : Performed) (plan : Redirection.Plan) (cwd : String) : Action Unit := do
  deliverOutput performed plan cwd .stdout
  deliverOutput performed plan cwd .stderr

/-- A state with its host as it is once a plan was prepared. -/
def prepared (plan : Redirection.Plan) (state : State) : State :=
  { state with host := (plan.prepare state.session.cwd state.host).2 }

end Shell

/-! ## Once the targets are prepared -/

namespace Outlets

section Prepared

variable (outlets : Outlets) (shell : Shell) (nested : String → Action CommandResult)
  {command : Command} {state : State}

theorem dispatchWith_apply_of_prepared
    (h : (command.plan.prepare state.session.cwd state.host).1 = .ok ()) :
    outlets.dispatchWith shell nested command state =
      outlets.runPrepared shell nested command state.session.cwd
        (Shell.prepared command.plan state) := by
  rw [dispatchWith, Action.get_bind_apply]
  simp only [h]
  rfl

theorem dispatchWith_apply_of_error {e : Redirection.TargetError}
    (h : (command.plan.prepare state.session.cwd state.host).1 = .error e) :
    outlets.dispatchWith shell nested command state =
      outlets.giveUp e (Shell.prepared command.plan state) := by
  rw [dispatchWith, Action.get_bind_apply]
  simp only [h]
  rfl

end Prepared

end Outlets

namespace Shell

variable (shell : Shell) (nested : String → Action CommandResult) (command : Command)

/-- Delivering the captured streams of a program is delivering what it hands over. -/
theorem deliverCaptured_eq (finished : Finished) (plan : Redirection.Plan) (cwd : String)
    (stream : Stream) :
    deliverCaptured stream (finished.captured stream) (plan.target? stream) cwd
      = deliverOutput (.ofFinished finished plan) plan cwd stream := by
  rw [deliverOutput, Performed.output_ofFinished]
  cases plan.target? stream with
  | none => rfl
  | some target => cases finished.captured stream <;> rfl

/-- The results that the shell words itself are emitted by delivering their texts. -/
theorem emit_eq (result : CommandResult) (plan : Redirection.Plan) (cwd : String) :
    emit result plan cwd = deliverAll (.ofResult result) plan cwd := rfl

/-- A command that is not one of the shell is performed and its output delivered. -/
theorem runExternal_eq_perform (cwd : String) (h : shell.commands.find? command.name = none) :
    shell.runExternal command cwd = (do
      let performed ← shell.perform nested command cwd
      deliverAll performed command.plan cwd
      return performed.result) := by
  funext state
  simp only [runExternal, Outlets.runExternal, perform, h, bind_assoc, Action.get_bind_apply]
  cases shell.resolve state command.name with
  | builtin => rfl
  | notFound => rfl
  | external path =>
    -- Both sides write the launch down and take the host from the launcher; then they part.
    simp only [bind_assoc]
    refine congrFun (bind_congr fun _ ↦ bind_congr fun host ↦ bind_congr fun _ ↦ ?_) state
    rw [← launchFor]
    cases (shell.launcher host.host (launchFor command path cwd)).1 with
    | ok finished =>
      have hstreams := fun stream ↦ deliverCaptured_eq finished command.plan cwd stream
      simp only [ofOutcome, pure_bind, deliverAll, bind_assoc, ← hstreams]
      rfl
    | error e =>
      cases e with
      | notStarted failure => rfl
      | hasNul => rfl
      | refused message => rfl

/-- **Dispatching is preparing, performing and delivering.** -/
theorem dispatchWith_apply_of_prepared {state : State}
    (h : (command.plan.prepare state.session.cwd state.host).1 = .ok ()) :
    shell.dispatchWith nested command state = (do
      let performed ← shell.perform nested command state.session.cwd
      deliverAll performed command.plan state.session.cwd
      return performed.result : Action CommandResult) (prepared command.plan state) := by
  refine (Outlets.dispatchWith_apply_of_prepared .working shell nested h).trans ?_
  rw [Outlets.runPrepared]
  cases hfind : shell.commands.find? command.name with
  | some handler =>
    simp only [perform, hfind, bind_assoc, pure_bind]
    rfl
  | none => exact congrFun (shell.runExternal_eq_perform nested command _ hfind) _

/-! ## Resolution and the table of commands -/

/-- A name is a command of the shell exactly when the table has it. -/
theorem resolve_eq_builtin_iff {state : State} {name : String} :
    shell.resolve state name = .builtin ↔ ∃ handler, shell.commands.find? name = some handler := by
  rw [resolve, resolveName, ← Option.isSome_iff_exists, CommandTable.isSome_find?]
  cases shell.commands.contains name with
  | true => exact iff_of_true rfl rfl
  | false => cases findExecutable state.host state.session name <;> simp

theorem find?_eq_none {state : State} {name : String}
    (h : shell.resolve state name ≠ .builtin) : shell.commands.find? name = none := by
  rw [Option.eq_none_iff_forall_ne_some]
  exact fun handler hfind ↦ h (shell.resolve_eq_builtin_iff.mpr ⟨handler, hfind⟩)

/-- Preparing a plan does not change what names stand for. -/
theorem resolve_prepared (plan : Redirection.Plan) (state : State) (name : String) :
    shell.resolve (prepared plan state) name = shell.resolve state name :=
  (Redirection.becomes_prepareTargets _ _ _).resolveName_eq _ _ _

/-! ## How commands are performed -/

/-- A procedure always ends with a result, by induction on the procedure. -/
theorem exists_runProcedure_eq_ok (name : String) (procedure : Procedure) (state : State) :
    ∃ result after, shell.runProcedure nested name procedure state = .ok result after := by
  induction procedure generalizing state with
  | reply | refuse | crash => exact ⟨_, _, rfl⟩
  | requestExit code next ih => exact ih _
  | exec text next ih =>
    -- A fault of the nested execution is an answer like any other.
    rw [runProcedure, Action.bind_apply, Action.attempt]
    cases nested text state with
    | ok answer after => exact ih (.ok answer) after
    | error fault after => exact ih (.error fault) after
  | session next ih => exact ih _ _
  | resolve other next ih => exact ih _ _
  | stat path next ih => exact ih _ _
  | chdir path next ih =>
    rw [runProcedure, Action.bind_apply, Action.chdir]
    cases state.enter path with
    | ok after => exact ih (.ok ()) after
    | error e => exact ih (.error e) state

/-- The state of a shell that has written down what it starts. -/
def logged (event : Event) (state : State) : State :=
  { state with journal := state.journal ++ [event] }

theorem record_bind_apply {α : Type} (event : Event) (next : Unit → Action α) (state : State) :
    (Action.record event >>= next) state = next () (logged event state) := rfl

variable {shell command}

theorem exists_perform_of_handler {handler : Handler}
    (hfind : shell.commands.find? command.name = some handler) (cwd : String) (state : State) :
    ∃ result after,
      shell.runProcedure nested command.name (handler command.args)
        (logged (.called command.name command.args) state) = .ok result after ∧
      shell.perform nested command cwd state = .ok (.ofResult result) after := by
  obtain ⟨result, after, hrun⟩ := shell.exists_runProcedure_eq_ok nested command.name
    (handler command.args) (logged (.called command.name command.args) state)
  refine ⟨result, after, hrun, ?_⟩
  simp only [perform, hfind]
  rw [record_bind_apply, Action.bind_apply, hrun]
  rfl

theorem perform_of_external {path : String} {state : State}
    (hresolve : shell.resolve state command.name = .external path) (cwd : String) :
    shell.perform nested command cwd state =
      ofOutcome command (shell.launcher state.host (launchFor command path cwd)).1
        { logged (.launched (launchFor command path cwd)) state with
          host := (shell.launcher state.host (launchFor command path cwd)).2 } := by
  have hfind : shell.commands.find? command.name = none :=
    shell.find?_eq_none (by rw [hresolve]; exact Resolution.noConfusion)
  simp only [perform, hfind, Action.get_bind_apply, hresolve]
  rfl

theorem perform_of_notFound {state : State}
    (hresolve : shell.resolve state command.name = .notFound) (cwd : String) :
    shell.perform nested command cwd state =
      .ok (.ofResult (.failure (command.name ++ ": command not found") 127)) state := by
  have hfind : shell.commands.find? command.name = none :=
    shell.find?_eq_none (by rw [hresolve]; exact Resolution.noConfusion)
  simp only [perform, hfind, Action.get_bind_apply, hresolve]
  rfl

theorem finalState_ofOutcome (outcome : Except LaunchError Finished) (state : State) :
    (ofOutcome command outcome).finalState state = state := by
  cases outcome with
  | ok finished => rfl
  | error e => cases e <;> rfl

/-- The ways in which a command is performed: a command of the shell is called, a program runs or
cannot be started, or there is nothing of that name. -/
inductive Performs (shell : Shell) (nested : String → Action CommandResult) (command : Command)
    (cwd : String) (state : State) : Performed → State → Prop
  | called {handler : Handler} {result : CommandResult} {after : State} :
      shell.commands.find? command.name = some handler →
      shell.runProcedure nested command.name (handler command.args)
        (logged (.called command.name command.args) state) = .ok result after →
      Performs shell nested command cwd state (.ofResult result) after
  | finished {path : String} {finished : Finished} :
      shell.resolve state command.name = .external path →
      (shell.launcher state.host (launchFor command path cwd)).1 = .ok finished →
      Performs shell nested command cwd state (.ofFinished finished command.plan)
        { logged (.launched (launchFor command path cwd)) state with
          host := (shell.launcher state.host (launchFor command path cwd)).2 }
  | notStarted {path : String} {failure : StartFailure} :
      shell.resolve state command.name = .external path →
      (shell.launcher state.host (launchFor command path cwd)).1 = .error (.notStarted failure) →
      Performs shell nested command cwd state
        (.ofResult (.failure (command.name ++ ": " ++ failure.reason) 126))
        { logged (.launched (launchFor command path cwd)) state with
          host := (shell.launcher state.host (launchFor command path cwd)).2 }
  | notFound :
      shell.resolve state command.name = .notFound →
      Performs shell nested command cwd state
        (.ofResult (.failure (command.name ++ ": command not found") 127)) state

/-- **Performing without a fault** goes in one of these ways. -/
theorem performs_of_perform {cwd : String} {state after : State} {performed : Performed}
    (h : shell.perform nested command cwd state = .ok performed after) :
    Performs shell nested command cwd state performed after := by
  cases hresolve : shell.resolve state command.name with
  | builtin =>
    obtain ⟨handler, hfind⟩ := shell.resolve_eq_builtin_iff.mp hresolve
    obtain ⟨result, ran, hrun, hperform⟩ := exists_perform_of_handler nested hfind cwd state
    obtain ⟨rfl, rfl⟩ := EStateM.Result.ok.inj (hperform.symm.trans h)
    exact .called hfind hrun
  | notFound =>
    have hperform := perform_of_notFound nested hresolve cwd
    obtain ⟨rfl, rfl⟩ := EStateM.Result.ok.inj (hperform.symm.trans h)
    exact .notFound hresolve
  | external path =>
    have hperform := perform_of_external nested hresolve cwd
    cases houtcome : (shell.launcher state.host (launchFor command path cwd)).1 with
    | ok finished =>
      rw [houtcome] at hperform
      obtain ⟨rfl, rfl⟩ := EStateM.Result.ok.inj (hperform.symm.trans h)
      exact .finished hresolve houtcome
    | error e =>
      rw [houtcome] at hperform
      cases e with
      | notStarted failure =>
        obtain ⟨rfl, rfl⟩ := EStateM.Result.ok.inj (hperform.symm.trans h)
        exact .notStarted hresolve houtcome
      | hasNul | refused => exact nomatch hperform.symm.trans h

/-- Performing ends with a fault only once a program was asked to run. -/
theorem exists_launched_of_perform_eq_error {cwd : String} {state after : State} {fault : Fault}
    (h : shell.perform nested command cwd state = .error fault after) :
    ∃ path, shell.resolve state command.name = .external path ∧
      after = { logged (.launched (launchFor command path cwd)) state with
        host := (shell.launcher state.host (launchFor command path cwd)).2 } := by
  cases hresolve : shell.resolve state command.name with
  | builtin =>
    obtain ⟨handler, hfind⟩ := shell.resolve_eq_builtin_iff.mp hresolve
    obtain ⟨result, ran, -, hperform⟩ := exists_perform_of_handler nested hfind cwd state
    exact nomatch hperform.symm.trans h
  | notFound => exact nomatch (perform_of_notFound nested hresolve cwd).symm.trans h
  | external path =>
    have hends := Action.finalState_of_error h
    rw [Action.finalState, perform_of_external nested hresolve cwd, ← Action.finalState,
      finalState_ofOutcome] at hends
    exact ⟨path, rfl, hends.symm⟩

/-- Performing a direct command of the shell leaves as it is what moving, asking to stop and being
written down leave so. -/
theorem keeps_perform_of_direct {γ : Type} {read : State → γ} {handler : Handler}
    (hfind : shell.commands.find? command.name = some handler)
    (hdirect : (handler command.args).Direct)
    (hrecord : ∀ event, Action.Keeps read (Action.record event))
    (hexit : ∀ code, Action.Keeps read (Action.requestExit code))
    (hchdir : ∀ path, Action.Keeps read (Action.chdir path)) (cwd : String) :
    Action.Keeps read (shell.perform nested command cwd) := by
  simp only [perform, hfind]
  exact .bind (hrecord _) fun _ ↦ .bind (hdirect.keeps hexit hchdir shell nested _) fun _ ↦ .pure _

/-- A command is performed without a fault if the program that it leads to, if any, is tried. -/
theorem exists_perform_of_attempted {cwd : String} {state : State}
    (hlauncher : ∀ path, shell.resolve state command.name = .external path →
      Launch.Attempted (shell.launcher state.host (launchFor command path cwd)).1) :
    ∃ performed after, shell.perform nested command cwd state = .ok performed after := by
  cases hresolve : shell.resolve state command.name with
  | builtin =>
    obtain ⟨handler, hfind⟩ := shell.resolve_eq_builtin_iff.mp hresolve
    obtain ⟨result, after, -, hperform⟩ := exists_perform_of_handler nested hfind cwd state
    exact ⟨_, after, hperform⟩
  | notFound => exact ⟨_, _, perform_of_notFound nested hresolve cwd⟩
  | external path =>
    have hperform := perform_of_external nested hresolve cwd
    have hattempted := hlauncher path hresolve
    cases houtcome : (shell.launcher state.host (launchFor command path cwd)).1 with
    | ok finished =>
      rw [houtcome] at hperform
      exact ⟨_, _, hperform⟩
    | error e =>
      rw [houtcome] at hperform hattempted
      cases e with
      | notStarted failure => exact ⟨_, _, hperform⟩
      | hasNul | refused => contradiction

/-! ## Delivering -/

/-- Delivery shows something or writes to files, and an error is shown on the standard error. -/
theorem keeps_deliverOutput {γ : Type} {read : State → γ} {stream : Stream}
    (hdisplay : ∀ output, Action.Keeps read (Action.display stream output))
    (hstderr : ∀ output, Action.Keeps read (Action.display .stderr output))
    (hhost : ∀ host, Action.Keeps read (Action.setHost host)) (performed : Performed)
    (plan : Redirection.Plan) (cwd : String) :
    Action.Keeps read (deliverOutput performed plan cwd stream) := by
  rw [deliverOutput]
  cases performed.output stream with
  | none => exact .pure ()
  | some output =>
    dsimp only
    cases plan.target? stream with
    | none =>
      rw [deliver_none]
      exact hdisplay output
    | some target =>
      rw [deliver_some]
      refine .get_bind fun state ↦ ?_
      split
      · exact hhost _
      · exact .throw _
      · exact hstderr _

/-- Delivery does not start anything. -/
theorem keeps_journal_deliverAll (performed : Performed) (plan : Redirection.Plan) (cwd : String) :
    Action.Keeps State.journal (deliverAll performed plan cwd) :=
  .bind (keeps_deliverOutput (fun _ _ ↦ rfl) (fun _ _ ↦ rfl) (fun _ _ ↦ rfl) _ _ _) fun _ ↦
    keeps_deliverOutput (fun _ _ ↦ rfl) (fun _ _ ↦ rfl) (fun _ _ ↦ rfl) _ _ _

/-- A target that cannot be written is reported; only a NUL character stops a delivery. -/
theorem deliver_eq_ok_or_hasNul (stream : Stream) (output : Output)
    (target? : Option Redirection.Target) (cwd : String) (state : State) :
    (∃ after, deliver stream output target? cwd state = .ok () after) ∨
      (deliver stream output target? cwd state = .error .hasNul state ∧
        ∃ target, target? = some target ∧ Path.hasNul (Path.anchor cwd target.path) = true) := by
  cases target? with
  | none =>
    rw [deliver_none]
    exact Or.inl ⟨_, rfl⟩
  | some target =>
    rw [deliver_some, Action.get_bind_apply]
    cases hwrite : Redirection.writeTarget target output.toBytes cwd state.host with
    | ok host => exact Or.inl ⟨_, rfl⟩
    | error e =>
      cases e with
      | hasNul =>
        exact Or.inr ⟨rfl, target, rfl, Redirection.writeTarget_eq_hasNul_iff.mp hwrite⟩
      | refused path reason => exact Or.inl ⟨_, rfl⟩

/-- What there is for a stream is delivered, unless its target holds a NUL character. -/
theorem deliverOutput_eq_ok_or_hasNul (performed : Performed) (plan : Redirection.Plan)
    (cwd : String) (stream : Stream) (state : State) :
    (∃ after, deliverOutput performed plan cwd stream state = .ok () after) ∨
      (deliverOutput performed plan cwd stream state = .error .hasNul state ∧
        ∃ target ∈ plan.targets, Path.hasNul (Path.anchor cwd target.path) = true) := by
  rw [deliverOutput]
  cases performed.output stream with
  | none => exact Or.inl ⟨_, rfl⟩
  | some output =>
    rcases deliver_eq_ok_or_hasNul stream output (plan.target? stream) cwd state with
      hok | ⟨hstops, target, htarget, hnul⟩
    · exact Or.inl hok
    · exact Or.inr ⟨hstops, target, Redirection.mem_targets_iff.mpr ⟨stream, htarget⟩, hnul⟩

theorem deliverAll_eq_ok_or_hasNul (performed : Performed) (plan : Redirection.Plan)
    (cwd : String) (state : State) :
    (∃ after, deliverAll performed plan cwd state = .ok () after) ∨
      ((∃ after, deliverAll performed plan cwd state = .error .hasNul after) ∧
        ∃ target ∈ plan.targets, Path.hasNul (Path.anchor cwd target.path) = true) := by
  rw [deliverAll, Action.bind_apply]
  rcases deliverOutput_eq_ok_or_hasNul performed plan cwd .stdout state with
    ⟨middle, hmiddle⟩ | ⟨hstops, hnul⟩
  · rw [hmiddle]
    rcases deliverOutput_eq_ok_or_hasNul performed plan cwd .stderr middle with
      hok | ⟨hstops, hnul⟩
    · exact Or.inl hok
    · exact Or.inr ⟨⟨_, hstops⟩, hnul⟩
  · rw [hstops]
    exact Or.inr ⟨⟨_, rfl⟩, hnul⟩

theorem exists_deliverAll_eq_ok {plan : Redirection.Plan} {cwd : String}
    (h : ∀ target ∈ plan.targets, Path.hasNul (Path.anchor cwd target.path) = false)
    (performed : Performed) (state : State) :
    ∃ after, deliverAll performed plan cwd state = .ok () after := by
  rcases deliverAll_eq_ok_or_hasNul performed plan cwd state with hok | ⟨-, target, htarget, hnul⟩
  · exact hok
  · rw [h target htarget] at hnul
    contradiction

/-! ## The end of a dispatch -/

section Dispatch

variable {state : State} (hprepare : (command.plan.prepare state.session.cwd state.host).1 = .ok ())
include hprepare

/-- Once a command is performed, dispatching it comes to delivering its output. -/
theorem dispatchWith_of_perform {performed : Performed} {middle after : State}
    (hperform : shell.perform nested command state.session.cwd (prepared command.plan state)
      = .ok performed middle)
    (hdeliver : deliverAll performed command.plan state.session.cwd middle = .ok () after) :
    shell.dispatchWith nested command state = .ok performed.result after := by
  rw [dispatchWith_apply_of_prepared _ _ _ hprepare, Action.bind_apply, hperform]
  dsimp only
  rw [Action.bind_apply, hdeliver]
  rfl

/-- What a dispatch starts, it starts in performing the command. -/
theorem journal_dispatchWith :
    ((shell.dispatchWith nested command).finalState state).journal =
      ((shell.perform nested command state.session.cwd).finalState
        (prepared command.plan state)).journal := by
  rw [Action.finalState, dispatchWith_apply_of_prepared _ _ _ hprepare]
  exact Action.Keeps.finalState_bind
    (fun performed ↦ .bind (keeps_journal_deliverAll _ _ _) fun _ ↦ .pure _) _

end Dispatch

end Shell

end LineShell
