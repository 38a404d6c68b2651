import LineShell.Proofs.Shell.Journal

/-!
# Executing text

Executing a text comes to dispatching commands one after the other. Which ones they are depends on
the state, since a command may ask the shell to stop or end with a fault, and then the lines after
it are not looked at. `Shell.dispatched` lists them, and `Shell.exec_eq_dispatchAll` says that
dispatching this list is all that an execution does.

Two texts with a line feed between them are executed one after the other, whatever they end or
begin with (`Shell.exec_append_newline`). The lines at the seam may differ from those of the two
texts by empty lines only, and empty lines hold no command.

A text without line breaks is one line and so one command (`Shell.exec_eq_dispatch`). The line feed
is not the only character that breaks a line, and a line is broken before its quotes are read: a
quoted line separator ends the command in the middle of an argument.
-/

namespace LineShell

namespace Shell

/-! ## The commands that are dispatched -/

section Lines

variable (dispatch : Command → Action CommandResult)

/-- Carry out commands one after the other; the result is that of the last one. -/
def dispatchAll (last : CommandResult) (commands : List Command) : Action CommandResult :=
  commands.foldlM (fun _ command ↦ dispatch command) last

/-- At most one command is carried out as it is. -/
theorem dispatchAll_toList (last : CommandResult) (command? : Option Command) :
    dispatchAll dispatch last command?.toList = command?.elim (pure last) dispatch := by
  cases command? with
  | none => rfl
  | some command => exact bind_pure (dispatch command)

/-- The commands that are carried out when lines are executed in a state. -/
def dispatchedLines : List String → State → List Command
  | [], _ => []
  | text :: rest, state =>
    if state.exitStatus.isSome then []
    else match Command.parse? text with
      | none => dispatchedLines rest state
      | some command =>
        command :: match dispatch command state with
          | .ok _ after => dispatchedLines rest after
          | .error _ _ => []

theorem execLines_cons_apply (last : CommandResult) (text : String) (rest : List String)
    (state : State) :
    execLines dispatch last (text :: rest) state =
      if state.exitStatus.isSome then .ok last state
      else match Command.parse? text with
        | none => execLines dispatch last rest state
        | some command =>
          match dispatch command state with
          | .ok result after => execLines dispatch result rest after
          | .error fault after => .error fault after := by
  rw [execLines, Action.get_bind_apply]
  split_ifs
  · rfl
  · cases Command.parse? text with
    | none => rfl
    | some command =>
      change (dispatch command >>= fun result ↦ execLines dispatch result rest) state = _
      rw [Action.bind_apply]
      dsimp only
      cases dispatch command state <;> rfl

section Running

variable {dispatch} {last result : CommandResult} {text : String} {state after : State}
  {command : Command} (hexit : state.exitStatus.isSome = false)
include hexit

/-- While the shell is running, a line without a command is passed over. -/
theorem execLines_cons_of_none (hparse : Command.parse? text = none) (rest : List String) :
    execLines dispatch last (text :: rest) state = execLines dispatch last rest state := by
  rw [execLines_cons_apply, hexit, if_neg Bool.false_ne_true, hparse]

/-- While the shell is running, a command with a result is followed by the lines after it. -/
theorem execLines_cons_of_ok (hparse : Command.parse? text = some command)
    (hdispatch : dispatch command state = .ok result after) (rest : List String) :
    execLines dispatch last (text :: rest) state = execLines dispatch result rest after := by
  rw [execLines_cons_apply, hexit, if_neg Bool.false_ne_true, hparse]
  dsimp only
  rw [hdispatch]

/-- While the shell is running, a command with a fault is the last one. -/
theorem execLines_cons_of_error {fault : Fault} (hparse : Command.parse? text = some command)
    (hdispatch : dispatch command state = .error fault after) (rest : List String) :
    execLines dispatch last (text :: rest) state = .error fault after := by
  rw [execLines_cons_apply, hexit, if_neg Bool.false_ne_true, hparse]
  dsimp only
  rw [hdispatch]

end Running

/-- **Executing lines is dispatching commands.** -/
theorem execLines_apply (last : CommandResult) (texts : List String) (state : State) :
    execLines dispatch last texts state =
      dispatchAll dispatch last (dispatchedLines dispatch texts state) state := by
  induction texts generalizing last state with
  | nil => rfl
  | cons text rest ih =>
    rw [execLines_cons_apply, dispatchedLines]
    split_ifs
    · rfl
    · cases Command.parse? text with
      | none => exact ih last state
      | some command =>
        dsimp only
        rw [dispatchAll, List.foldlM_cons, Action.bind_apply]
        cases dispatch command state with
        | error fault after => rfl
        | ok result after => exact ih result after

/-- Once the shell was asked to stop, nothing is executed. -/
theorem execLines_of_isSome {last : CommandResult} {texts : List String} {state : State}
    (h : state.exitStatus.isSome = true) :
    execLines dispatch last texts state = .ok last state := by
  cases texts with
  | nil => rfl
  | cons text rest => rw [execLines_cons_apply, if_pos h]

theorem dispatchedLines_of_isSome {texts : List String} {state : State}
    (h : state.exitStatus.isSome = true) : dispatchedLines dispatch texts state = [] := by
  cases texts with
  | nil => rfl
  | cons text rest => rw [dispatchedLines, if_pos h]

/-- The result that an execution starts with is its result if no command is dispatched. -/
theorem execLines_eq_ite (last : CommandResult) (texts : List String) (state : State) :
    execLines dispatch last texts state =
      match execLines dispatch {} texts state with
      | .ok result after =>
        .ok (if dispatchedLines dispatch texts state = [] then last else result) after
      | .error fault after => .error fault after := by
  rw [execLines_apply, execLines_apply]
  cases dispatchedLines dispatch texts state with
  | nil => rfl
  | cons command rest =>
    -- From the first command on it is forgotten.
    have hforget : dispatchAll dispatch last (command :: rest)
        = dispatchAll dispatch {} (command :: rest) := rfl
    rw [hforget]
    cases dispatchAll dispatch {} (command :: rest) state <;> rfl

/-! ## Lines after lines -/

theorem execLines_append (last : CommandResult) (xs ys : List String) (state : State) :
    execLines dispatch last (xs ++ ys) state =
      match execLines dispatch last xs state with
      | .ok result middle => execLines dispatch result ys middle
      | .error fault middle => .error fault middle := by
  induction xs generalizing last state with
  | nil => rfl
  | cons text rest ih =>
    rw [List.cons_append, execLines_cons_apply, execLines_cons_apply]
    split_ifs with hexit
    · exact (execLines_of_isSome dispatch hexit).symm
    · cases Command.parse? text with
      | none => exact ih last state
      | some command =>
        dsimp only
        cases dispatch command state with
        | error fault after => rfl
        | ok result after => exact ih result after

theorem dispatchedLines_append (last : CommandResult) (xs ys : List String) (state : State) :
    dispatchedLines dispatch (xs ++ ys) state = dispatchedLines dispatch xs state ++
      match execLines dispatch last xs state with
      | .ok _ after => dispatchedLines dispatch ys after
      | .error _ _ => [] := by
  induction xs generalizing last state with
  | nil => rfl
  | cons text rest ih =>
    rw [List.cons_append, dispatchedLines, dispatchedLines, execLines_cons_apply]
    split_ifs with hexit
    · exact (dispatchedLines_of_isSome dispatch hexit).symm
    · cases Command.parse? text with
      | none => exact ih last state
      | some command =>
        dsimp only
        rw [List.cons_append]
        cases dispatch command state with
        | error fault after => rfl
        | ok result after => exact congrArg (command :: ·) (ih result after)

/-- Empty lines hold no command. -/
theorem execLines_replicate_append (last : CommandResult) (gap : Nat) (texts : List String)
    (state : State) :
    execLines dispatch last (List.replicate gap "" ++ texts) state =
      execLines dispatch last texts state := by
  induction gap with
  | zero => rfl
  | succ gap ih =>
    rw [List.replicate_succ, List.cons_append, execLines_cons_apply]
    split_ifs with hexit
    · exact (execLines_of_isSome dispatch hexit).symm
    · exact ih

theorem dispatchedLines_replicate_append (gap : Nat) (texts : List String) (state : State) :
    dispatchedLines dispatch (List.replicate gap "" ++ texts) state =
      dispatchedLines dispatch texts state := by
  induction gap with
  | zero => rfl
  | succ gap ih =>
    rw [List.replicate_succ, List.cons_append, dispatchedLines]
    split_ifs with hexit
    · exact (dispatchedLines_of_isSome dispatch hexit).symm
    · exact ih

/-- A change that the dispatched commands do not see is not seen in which commands they are. -/
theorem dispatchedLines_unseen {change : State → State} (h : State.Unseen change)
    (hdispatch : ∀ command, Action.Blind change (dispatch command)) (texts : List String)
    (state : State) :
    dispatchedLines dispatch texts (change state) = dispatchedLines dispatch texts state := by
  induction texts generalizing state with
  | nil => rfl
  | cons text rest ih =>
    rw [dispatchedLines, dispatchedLines, h.exitStatus_eq]
    split_ifs
    · rfl
    · cases Command.parse? text with
      | none => exact ih state
      | some command =>
        dsimp only
        rw [hdispatch command state]
        cases dispatch command state with
        | error fault after => rfl
        | ok result after => exact congrArg (command :: ·) (ih after)

end Lines

/-! ## Texts -/

variable (shell : Shell)

/-- The commands that are dispatched when a text is executed in a state, in order. -/
def dispatched (text : String) (state : State) : List Command :=
  dispatchedLines shell.dispatch (lines text) state

theorem exec_eq_execLines (text : String) :
    shell.exec text = execLines shell.dispatch {} (lines text) := rfl

/-- **Executing a text is dispatching its commands**, one after the other. -/
theorem exec_eq_dispatchAll (text : String) (state : State) :
    shell.exec text state = dispatchAll shell.dispatch {} (shell.dispatched text state) state :=
  execLines_apply shell.dispatch {} (lines text) state

theorem exec_of_isSome (text : String) {state : State} (h : state.exitStatus.isSome = true) :
    shell.exec text state = .ok {} state :=
  execLines_of_isSome shell.dispatch h

/-- Which commands are dispatched does not depend on what the terminal shows. -/
theorem dispatched_congr (text : String) {state other : State} (h : state.blank = other.blank) :
    shell.dispatched text state = shell.dispatched text other := by
  have hblank (state : State) :
      shell.dispatched text state = shell.dispatched text state.blank := by
    have hunseen := State.unseen_withShown state.terminal
    calc shell.dispatched text state
        = shell.dispatched text (state.blank.withShown state.terminal) := by
          rw [state.withShown_blank]
      _ = shell.dispatched text state.blank :=
          dispatchedLines_unseen shell.dispatch hunseen (hunseen.blind_dispatch shell) _ _
  rw [hblank state, h, ← hblank other]

theorem exists_lines_append_newline (a b : String) :
    ∃ gap, lines (a ++ "\n" ++ b) = lines a ++ (List.replicate gap "" ++ lines b) := by
  obtain ⟨gap, hgap⟩ := Text.exists_lines_append_newline a.toList b.toList
  have hchars : (a ++ "\n" ++ b).toList = a.toList ++ '\n' :: b.toList := by
    rw [String.toList_append, String.toList_append, List.append_assoc]
    rfl
  refine ⟨gap, ?_⟩
  rw [lines, hchars, hgap, List.map_append, List.map_append, List.map_replicate, List.append_assoc]
  rfl

/-- The commands of two texts with a line feed between them are those of the first and, unless it
ends with a fault, those of the second in the state that the first one leaves. -/
theorem dispatched_append_newline (a b : String) (state : State) :
    shell.dispatched (a ++ "\n" ++ b) state = shell.dispatched a state ++
      match shell.exec a state with
      | .ok _ middle => shell.dispatched b middle
      | .error _ _ => [] := by
  obtain ⟨gap, hgap⟩ := exists_lines_append_newline a b
  rw [dispatched, hgap, dispatchedLines_append _ {}, exec_eq_execLines]
  cases execLines shell.dispatch {} (lines a) state with
  | error fault middle => rfl
  | ok first middle =>
    dsimp only
    rw [dispatchedLines_replicate_append]
    rfl

/-- Two texts with a line feed between them are executed one after the other. -/
theorem exec_append_newline_apply (a b : String) (state : State) :
    shell.exec (a ++ "\n" ++ b) state =
      match shell.exec a state with
      | .error fault middle => .error fault middle
      | .ok first middle =>
        match shell.exec b middle with
        | .error fault after => .error fault after
        | .ok second after =>
          .ok (if shell.dispatched b middle = [] then first else second) after := by
  obtain ⟨gap, hgap⟩ := exists_lines_append_newline a b
  rw [exec_eq_execLines, hgap, execLines_append, exec_eq_execLines]
  cases execLines shell.dispatch {} (lines a) state with
  | error fault middle => rfl
  | ok first middle =>
    dsimp only
    rw [execLines_replicate_append, execLines_eq_ite, ← exec_eq_execLines]
    cases shell.exec b middle <;> rfl

/-- **A text is executed part by part.** Executing two texts with a line feed between them has the
effect of executing the first and then the second. The result is that of the second if it dispatches
a command and that of the first otherwise; and if the first ends with a fault, so does the whole,
and no command of the second is dispatched. -/
theorem exec_append_newline (a b : String) (state : State) :
    (shell.exec (a ++ "\n" ++ b) state =
      match shell.exec a state with
      | .error fault middle => .error fault middle
      | .ok first middle =>
        match shell.exec b middle with
        | .error fault after => .error fault after
        | .ok second after =>
          .ok (if shell.dispatched b middle = [] then first else second) after) ∧
    shell.dispatched (a ++ "\n" ++ b) state = shell.dispatched a state ++
      match shell.exec a state with
      | .ok _ middle => shell.dispatched b middle
      | .error _ _ => [] :=
  ⟨shell.exec_append_newline_apply a b state, shell.dispatched_append_newline a b state⟩

/-! ## Texts of one line -/

/-- A text without breaks is looked at as a whole. -/
theorem dispatched_of_forall_not_break {text : String} {state : State}
    (hbreak : ∀ c ∈ text.toList, Text.isLineBreak c = false) (hexit : state.exitStatus = none) :
    shell.dispatched text state = (Command.parse? text).toList := by
  have hrunning : ¬ state.exitStatus.isSome = true := by
    rw [hexit]
    exact Bool.false_ne_true
  rw [dispatched, lines]
  by_cases hempty : text = ""
  · subst hempty
    rfl
  · have hchars : text.toList ≠ [] := mt String.toList_eq_nil_iff.mp hempty
    rw [Text.lines_of_forall_not_break hbreak hchars, List.map_singleton, String.ofList_toList,
      dispatchedLines, if_neg hrunning]
    cases Command.parse? text with
    | none => rfl
    | some command =>
      dsimp only
      cases shell.dispatch command state <;> rfl

/-- **A line is a command.** Executing a text without line breaks while the shell is running is
dispatching the command that the text holds, and nothing if it holds none. Whatever else the text
is made of, quoted or not, no second command comes of it. -/
theorem exec_eq_dispatch (text : String) (state : State)
    (hbreak : ∀ c ∈ text.toList, Text.isLineBreak c = false) (hexit : state.exitStatus = none) :
    (shell.exec text state =
      match Command.parse? text with
      | none => .ok {} state
      | some command => shell.dispatch command state) ∧
    shell.dispatched text state = (Command.parse? text).toList := by
  have hdispatched := shell.dispatched_of_forall_not_break hbreak hexit
  refine ⟨?_, hdispatched⟩
  rw [exec_eq_dispatchAll, hdispatched, dispatchAll_toList]
  cases Command.parse? text <;> rfl

/-- Blanks and control characters that do not break lines stay in the argument they are quoted
in. -/
theorem quoted_controls_stay_in_one_command :
    let shell : Shell := { launcher := fun host _ ↦ (.ok {}, host) }
    let state : State := { session := { cwd := "/", home := "/" } }
    let text := "echo 'a\t\u00a0\u001fexit 3'"
    (∀ c ∈ text.toList, Text.isLineBreak c = false) ∧ state.exitStatus = none ∧
    shell.exec text state = shell.dispatch ⟨"echo", ["a\t\u00a0\u001fexit 3"], {}⟩ state ∧
    shell.dispatched text state = [⟨"echo", ["a\t\u00a0\u001fexit 3"], {}⟩] := by
  intro shell state text
  have hnone : text.toList.any Text.isLineBreak = false := by decide +kernel
  have hbreak : ∀ c ∈ text.toList, Text.isLineBreak c = false := by
    simpa only [List.any_eq_false, Bool.not_eq_true] using hnone
  have hparse : Command.parse? text = some ⟨"echo", ["a\t\u00a0\u001fexit 3"], {}⟩ := by
    decide +kernel
  obtain ⟨hexec, hdispatched⟩ := shell.exec_eq_dispatch text state hbreak rfl
  rw [hparse] at hexec hdispatched
  exact ⟨hbreak, rfl, hexec, hdispatched⟩

/-- A quoted line separator ends the command in the middle of the argument, and what follows it is
a second command: here the shell is asked to stop, which the command that was written does not
do. -/
theorem quoted_separator_ends_command :
    let shell : Shell := { launcher := fun host _ ↦ (.ok {}, host) }
    let state : State := { session := { cwd := "/", home := "/" } }
    let command : Command := ⟨"echo", ["a\u2028exit 3"], {}⟩
    Command.parse? "echo 'a\u2028exit 3'" = some command ∧
    ((shell.dispatch command).finalState state).exitStatus = none ∧
    ((shell.exec "echo 'a\u2028exit 3'").finalState state).exitStatus = some 3 := by
  decide +kernel

end Shell

end LineShell
