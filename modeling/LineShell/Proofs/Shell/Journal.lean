import LineShell.Proofs.Shell.Blindness

/-!
# The journal and the terminal are only written

A shell writes down what it starts and shows what there is to be shown, and it never looks at what
stands there already. So an execution that begins with an earlier journal, or with something on the
terminal, does what it would do without, and leaves the earlier part in front of what it adds itself
(`Action.JournalBlind`, `Shell.exec_eq_mapState`). This is what makes "what a command started" and
"what a text shows" notions: they are the journal and the terminal that are left when both begin
empty.
-/

namespace LineShell

/-! ## The journal -/

/-- A state with more written before its journal. -/
def State.withEarlier (earlier : List Event) (state : State) : State :=
  { state with journal := earlier ++ state.journal }

@[simp] theorem State.withEarlier_journal (earlier : List Event) (state : State) :
    (state.withEarlier earlier).journal = earlier ++ state.journal := rfl

theorem State.unseen_withEarlier (earlier : List Event) :
    State.Unseen (State.withEarlier earlier) where
  session_eq := fun _ ↦ rfl
  host_eq := fun _ ↦ rfl
  exitStatus_eq := fun _ ↦ rfl
  move := fun _ _ _ ↦ rfl
  requestExit := fun _ _ ↦ rfl
  display := fun _ _ _ ↦ rfl
  record := fun state _ ↦
    congrArg (fun journal ↦ { state with journal }) (List.append_assoc _ _ _).symm

namespace Action

variable {α : Type}

/-- The same end with more written before the journal. -/
def withEarlier (earlier : List Event) :
    EStateM.Result Fault State α → EStateM.Result Fault State α
  | .ok value state => .ok value (state.withEarlier earlier)
  | .error fault state => .error fault (state.withEarlier earlier)

/-- Whether an action does not look at the journal that it finds. -/
def JournalBlind (action : Action α) : Prop :=
  ∀ earlier state, action (state.withEarlier earlier) = withEarlier earlier (action state)

theorem journalBlind_of_blind {action : Action α}
    (h : ∀ earlier, Blind (State.withEarlier earlier) action) : JournalBlind action := by
  intro earlier state
  rw [h earlier state]
  cases action state <;> rfl

end Action

namespace Shell

/-- Running a procedure does not look at the journal if nested executions do not. -/
theorem journalBlind_runProcedure (shell : Shell) (levels : Nat) (name : String)
    (procedure : Procedure) :
    Action.JournalBlind (shell.runProcedure (shell.execWithin levels) name procedure) :=
  Action.journalBlind_of_blind fun earlier ↦ (State.unseen_withEarlier earlier).blind_runProcedure
    shell ((State.unseen_withEarlier earlier).blind_execWithin shell levels) name procedure

end Shell

/-! ## The terminal -/

/-- What a terminal shows when more is shown after something. -/
instance : Append Terminal where
  append earlier later := ⟨earlier.stdout ++ later.stdout, earlier.stderr ++ later.stderr⟩

namespace Terminal

theorem append_def (earlier later : Terminal) :
    earlier ++ later = ⟨earlier.stdout ++ later.stdout, earlier.stderr ++ later.stderr⟩ := rfl

theorem append_empty (terminal : Terminal) : terminal ++ ({} : Terminal) = terminal := by
  rw [append_def, String.append_empty, String.append_empty]

theorem empty_append (terminal : Terminal) : ({} : Terminal) ++ terminal = terminal := by
  rw [append_def, String.empty_append, String.empty_append]

theorem append_assoc (a b c : Terminal) : a ++ b ++ c = a ++ (b ++ c) := by
  simp only [append_def, String.append_assoc]

/-- What is shown comes last. -/
theorem display_append (earlier later : Terminal) (stream : Stream) (output : Output) :
    (earlier ++ later).display stream output = earlier ++ later.display stream output := by
  cases stream with
  | stdout =>
    exact congrArg (fun stdout ↦ Terminal.mk stdout _) (String.append_assoc ..)
  | stderr =>
    exact congrArg (fun stderr ↦ Terminal.mk _ stderr) (String.append_assoc ..)

end Terminal

namespace State

/-- A state with more shown before what its terminal shows. -/
def withShown (earlier : Terminal) (state : State) : State :=
  { state with terminal := earlier ++ state.terminal }

/-- A state with nothing shown. -/
def blank (state : State) : State :=
  { state with terminal := {} }

@[simp] theorem withShown_exitStatus (earlier : Terminal) (state : State) :
    (state.withShown earlier).exitStatus = state.exitStatus := rfl

@[simp] theorem withShown_terminal (earlier : Terminal) (state : State) :
    (state.withShown earlier).terminal = earlier ++ state.terminal := rfl

theorem withShown_blank (state : State) : state.blank.withShown state.terminal = state := by
  rw [withShown, blank, Terminal.append_empty]

theorem unseen_withShown (earlier : Terminal) : State.Unseen (State.withShown earlier) where
  session_eq := fun _ ↦ rfl
  host_eq := fun _ ↦ rfl
  exitStatus_eq := fun _ ↦ rfl
  move := fun _ _ _ ↦ rfl
  requestExit := fun _ _ ↦ rfl
  display := fun state stream output ↦ congrArg (fun terminal ↦ { state with terminal })
    (Terminal.display_append earlier state.terminal stream output).symm
  record := fun _ _ ↦ rfl

end State

namespace Shell

variable (shell : Shell)

/-- Executing text does not look at what the terminal shows. -/
theorem exec_eq_mapState (text : String) (state : State) :
    shell.exec text state =
      Action.mapState (State.withShown state.terminal) (shell.exec text state.blank) := by
  rw [← (State.unseen_withShown state.terminal).blind_exec shell text, State.withShown_blank]

/-- What a text shows when it is executed in a state. -/
def shows (text : String) (state : State) : Terminal :=
  ((shell.exec text).finalState state.blank).terminal

theorem shows_congr (text : String) {state other : State} (h : state.blank = other.blank) :
    shell.shows text state = shell.shows text other := by
  rw [shows, shows, h]

end Shell

end LineShell
