import LineShell.Proofs.Shell.Course

/-!
# Statuses that a shell is asked to stop with

A shell is asked to stop by its commands, and by nothing else that it does. So a property of the
codes that its commands ask for is a property of the status at every moment of a run, also while
commands are carried out (`Shell.Leads.stops`). The commands that every shell knows ask for codes
that can be the exit status of a process, and once there is one, nothing is executed any more.
-/

namespace LineShell

open LineShell.Action (Within)

/-! ## Codes that procedures ask for -/

/-- Procedures that ask to stop with codes of one kind only. -/
inductive Procedure.StopsWith (p : Int → Prop) : Procedure → Prop
  | reply (result : CommandResult) : StopsWith p (.reply result)
  | refuse (message : String) : StopsWith p (.refuse message)
  | crash (message : String) : StopsWith p (.crash message)
  | requestExit {code : Int} {next : Procedure} :
      p code → StopsWith p next → StopsWith p (.requestExit code next)
  | exec (text : String) {next : Except Fault CommandResult → Procedure} :
      (∀ answer, StopsWith p (next answer)) → StopsWith p (.exec text next)
  | session {next : Session → Procedure} :
      (∀ session, StopsWith p (next session)) → StopsWith p (.session next)
  | resolve (name : String) {next : Resolution → Procedure} :
      (∀ resolution, StopsWith p (next resolution)) → StopsWith p (.resolve name next)
  | stat (path : String) {next : Option Node → Procedure} :
      (∀ node?, StopsWith p (next node?)) → StopsWith p (.stat path next)
  | chdir (path : String) {next : Except PathError Unit → Procedure} :
      (∀ answer, StopsWith p (next answer)) → StopsWith p (.chdir path next)

namespace Builtin

theorem hereditary_stopsWith : Hereditary (Procedure.StopsWith IsStatus) where
  reply := fun _ _ ↦ .reply _
  refuse := .refuse
  requestExit := .requestExit
  session := .session
  resolve := .resolve
  stat := .stat
  crash := .crash
  chdir := .chdir

end Builtin

/-- Shells whose commands ask to stop with codes of one kind only. -/
def Shell.StopsWith (shell : Shell) (p : Int → Prop) : Prop :=
  ∀ {name handler}, shell.commands.find? name = some handler →
    ∀ args, (handler args).StopsWith p

/-- The shells that know the commands of every shell and no others stop with exit statuses. -/
theorem Shell.stopsWith_standard (launcher : Launcher) : Shell.StopsWith { launcher } IsStatus :=
  fun hfind args ↦
    Builtin.hereditary_stopsWith.of_mem_standardCommands (CommandTable.mem_of_find? hfind) args

/-! ## Executions -/

/-- Whether the status in a state, if there is one, is of some kind. -/
def State.StopsWith (p : Int → Prop) (state : State) : Prop :=
  ∀ code, state.exitStatus = some code → p code

/-- Whether something that leads from one state to another asks for no codes of another kind. -/
def State.AsksFor (p : Int → Prop) (before after : State) : Prop :=
  before.StopsWith p → after.StopsWith p

variable {p : Int → Prop} {shell : Shell}

theorem State.admitsOutput_asksFor : State.AdmitsOutput (State.AsksFor p) where
  refl := fun _ h ↦ h
  trans := fun hfirst hsecond h ↦ hsecond (hfirst h)
  terminal := fun _ _ h ↦ h
  write := fun _ _ _ h ↦ h

theorem Action.within_requestExit {code : Int} (h : p code) :
    Within (State.AsksFor p) (Action.requestExit code) := by
  intro state _ other hother
  rw [← Option.some.inj hother]
  exact h

theorem Action.within_chdir (path : String) :
    Within (State.AsksFor p) (Action.chdir path) := by
  intro state hstate
  have hkeeps : Action.Keeps State.exitStatus (Action.chdir path) :=
    Action.keeps_chdir (fun _ _ _ ↦ rfl) path
  rw [State.StopsWith, hkeeps state]
  exact hstate

/-- Running a procedure asks for no other codes than the procedure does, by induction on it. -/
theorem Procedure.StopsWith.within {procedure : Procedure} (h : procedure.StopsWith p)
    {nested : String → Action CommandResult}
    (hnested : ∀ text, Within (State.AsksFor p) (nested text)) (name : String) :
    Within (State.AsksFor p) (shell.runProcedure nested name procedure) := by
  have hasks : State.AdmitsOutput (State.AsksFor p) := State.admitsOutput_asksFor
  induction h with
  | reply | refuse | crash => exact hasks.refl
  | requestExit hcode _ ih => exact hasks.bind (Action.within_requestExit hcode) fun _ ↦ ih
  | exec text _ ih => exact hasks.bind (hnested text).attempt fun answer ↦ ih answer
  | session _ ih => exact .get_bind fun state ↦ ih state.session
  | resolve other _ ih => exact .get_bind fun state ↦ ih _
  | stat path _ ih => exact .get_bind fun state ↦ ih _
  | chdir path _ ih => exact hasks.bind (Action.within_chdir path) fun answer ↦ ih answer

theorem Shell.StopsWith.admits (hshell : shell.StopsWith p) : shell.Admits (State.AsksFor p) where
  toAdmitsOutput := State.admitsOutput_asksFor
  launch := fun _ _ h ↦ h
  call := fun hnested _ _ hfind args state ↦
    (hshell hfind args).within hnested _ (logged (.called _ args) state)

/-! ## Moments -/

/-- Whether an activity, if it is to run a procedure, asks for codes of one kind only. -/
def Activity.StopsWith (p : Int → Prop) : Activity → Prop
  | .procedure _ _ remaining => remaining.StopsWith p
  | .texts _ | .lines _ _ | .command _ _ => True

/-- Whether a moment belongs to a run that stops with codes of one kind only. -/
structure Moment.StopsWith (p : Int → Prop) (moment : Moment) : Prop where
  state : moment.state.StopsWith p
  activity : moment.activity.StopsWith p

namespace Shell

variable (hshell : shell.StopsWith p)
include hshell

/-- What follows such a moment is one, by cases on how it follows. -/
theorem Follows.stops {moment next : Moment} (h : shell.Follows moment next)
    (hmoment : moment.StopsWith p) : next.StopsWith p := by
  have hadmits := hshell.admits
  obtain ⟨hstate, hactivity⟩ := hmoment
  cases h with
  | text | blank | line | nested => exact ⟨hstate, trivial⟩
  | nextText => exact ⟨hadmits.within_exec _ _ hstate, trivial⟩
  | @nextLine levels text rest state after command result _ _ hrun =>
    have hafter := hadmits.within_dispatchWith (hadmits.within_execWithin levels) command state
      hstate
    rw [Action.finalState_of_ok hrun] at hafter
    exact ⟨hafter, trivial⟩
  | call _ hfind => exact ⟨hstate, hshell hfind _⟩
  | @requestExit levels name code next state =>
    cases hactivity with
    | requestExit hcode hnext => exact ⟨Action.within_requestExit hcode state hstate, hnext⟩
  | @answered levels name text next state after answer hrun =>
    cases hactivity with
    | exec text hnext =>
      have hafter := (hadmits.within_execWithin levels text).attempt state hstate
      rw [Action.finalState_of_ok hrun] at hafter
      exact ⟨hafter, hnext answer⟩
  | session =>
    cases hactivity with
    | session hnext => exact ⟨hstate, hnext _⟩
  | resolve =>
    cases hactivity with
    | resolve name hnext => exact ⟨hstate, hnext _⟩
  | stat =>
    cases hactivity with
    | stat path hnext => exact ⟨hstate, hnext _⟩
  | @chdir levels name path next state after answer hrun =>
    cases hactivity with
    | chdir path hnext =>
      have hafter := Action.within_chdir path state hstate
      rw [Action.finalState_of_ok hrun] at hafter
      exact ⟨hafter, hnext answer⟩

/-- **Statuses at all moments.** When texts are executed one after the other, beginning while the
shell is running, the status at every moment is of the kind that the commands ask for, by induction
on how the moment comes up. -/
theorem Leads.stops {texts : List String} {start : State} (hstart : start.exitStatus = none)
    {moment : Moment} (h : shell.Leads ⟨.texts texts, start⟩ moment) :
    moment.state.StopsWith p := by
  have hrunning : start.StopsWith p := fun code hcode ↦ nomatch hstart.symm.trans hcode
  have hmoment : moment.StopsWith p := by
    induction h with
    | refl => exact ⟨hrunning, trivial⟩
    | tail _ hfollows ih => exact hfollows.stops hshell ih
  exact hmoment.state

end Shell

end LineShell
