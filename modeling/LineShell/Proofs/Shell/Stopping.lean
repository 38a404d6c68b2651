import LineShell.Proofs.Command.Rendering
import LineShell.Proofs.Shell.Execution
import LineShell.Proofs.Shell.Files
import LineShell.Proofs.Shell.Showing
import LineShell.Proofs.Text.Decimal
import LineShell.Proofs.Token.Spelling

/-!
# Stopping

The command `exit` asks the shell to stop and does nothing else. With a number it prints nothing,
and the status is what is left of the number modulo 256. With something that is no number the status
is 2, and the message that says so is the output of the command, so that it goes where a plan sends
the standard output.

A line that says `exit` and a number in decimal form is such a command, whatever the number is, and
no line after it is executed (`Shell.execLines_exitLine`).
-/

namespace LineShell

/-! ## Plain words -/

/-- Whether a word stands for itself on a line. -/
structure IsPlain (word : String) : Prop where
  ne_empty : word ≠ ""
  bare : ∀ c ∈ word.toList, c ∉ ['\\', '"', '\'', ' ', '>']
  no_break : ∀ c ∈ word.toList, Text.isLineBreak c = false

namespace IsPlain

variable {first second : String}

theorem spellsWord (h : IsPlain first) : SpellsWord first.toList first.toList := by
  have hbare : ∀ c ∈ first.toList, c ∉ ['\\', '"', '\'', ' '] := fun c hc hmem ↦
    h.bare c hc (List.mem_append_left ['>'] hmem)
  have hspelled := SpellsWord.cons (.bare hbare) .nil
  rwa [List.append_nil] at hspelled

theorem not_beginsWithOperator (h : IsPlain first) : ¬Redirection.BeginsWithOperator first := by
  rintro ⟨op, hop, hbegins⟩
  have hsymbols : ∀ op ∈ Redirection.operators, '>' ∈ op.symbol.toList := by decide
  exact h.bare '>' (hbegins.subset (hsymbols op hop)) (by decide)

/-- Two plain words with a space between them are a name and an argument. -/
theorem parse?_append_space (h : IsPlain first) (h' : IsPlain second) :
    Command.parse? (first ++ " " ++ second) = some ⟨first, [second], {}⟩ := by
  have hsecond : SpellsLine [second] (second.toList ++ []) :=
    .word h'.ne_empty h'.spellsWord (Or.inl rfl) .nil
  have hline : SpellsLine [first, second] (first.toList ++ ' ' :: (second.toList ++ [])) :=
    .word h.ne_empty h.spellsWord (Or.inr ⟨_, rfl⟩) hsecond.space
  have hchars : (first ++ " " ++ second).toList = first.toList ++ ' ' :: (second.toList ++ []) := by
    rw [String.toList_append, String.toList_append, List.append_assoc, List.append_nil]
    rfl
  have htokens : tokenize (first ++ " " ++ second) = [first, second] := by
    rw [tokenize, tokenized, hchars]
    exact congrArg Tokenizer.tokens (hline.finish_run [])
  have hliteral : Redirection.Literal [second] :=
    ⟨Redirection.leading?_eq_none_iff.mpr (Or.inl h'.not_beginsWithOperator), trivial⟩
  exact Command.parse?_eq_some_iff.mpr
    ⟨[second], htokens, Redirection.extract_of_literal hliteral⟩

/-- They are one line. -/
theorem lines_append_space (h : IsPlain first) (h' : IsPlain second) :
    Shell.lines (first ++ " " ++ second) = [first ++ " " ++ second] := by
  have hbreak : ∀ c ∈ (first ++ " " ++ second).toList, Text.isLineBreak c = false := by
    intro c hc
    rw [String.toList_append, String.toList_append, List.mem_append, List.mem_append] at hc
    rcases hc with (hc | hc) | hc
    · exact h.no_break c hc
    · rw [List.mem_singleton.mp hc]
      decide
    · exact h'.no_break c hc
  have hne : (first ++ " " ++ second).toList ≠ [] := by
    intro hempty
    rw [String.toList_append, List.append_eq_nil_iff] at hempty
    exact h'.ne_empty (String.toList_eq_nil_iff.mp hempty.2)
  rw [Shell.lines, Text.lines_of_forall_not_break hbreak hne, List.map_singleton,
    String.ofList_toList]

end IsPlain

theorem isPlain_toString (number : Int) : IsPlain (toString number) where
  ne_empty := by
    intro hempty
    have hchars := congrArg String.toList hempty
    rcases Int.lt_or_le number 0 with hneg | hpos
    · rw [Text.toString_of_neg hneg, String.toList_append] at hchars
      exact absurd (List.append_eq_nil_iff.mp hchars).1 (by decide)
    · rw [Text.toString_of_nonneg hpos, Text.toList_toString] at hchars
      exact Nat.toDigits_ne_nil hchars
  bare := by
    intro c hc hmem
    rcases Text.isDigit_or_minus_of_mem_toString hc with hdigit | rfl
    · simp only [List.mem_cons, List.not_mem_nil, or_false] at hmem
      rcases hmem with rfl | rfl | rfl | rfl | rfl <;> exact absurd hdigit (by decide)
    · exact absurd hmem (by decide)
  no_break := by
    intro c hc
    rcases Text.isDigit_or_minus_of_mem_toString hc with hdigit | rfl
    · obtain ⟨hlower, hupper⟩ := Text.toNat_of_isDigit hdigit
      rw [← Bool.not_eq_true, Text.isLineBreak, CharClass.has_iff]
      simp [Text.lineBreaks]
      omega
    · decide

namespace Builtin

/-! ## What `exit` asks for -/

theorem exit_of_integer {status : String} {number : Int} (h : Text.integer? status = some number)
    (rest : List String) : exit (status :: rest) = .requestExit (number % 256) (.reply {}) := by
  rw [exit, h]

/-- What `exit` prints if it is given something that is no integer. -/
def exitComplaint (status : String) : String :=
  line ("exit: " ++ status ++ ": numeric argument required")

/-- What is left of a call of `exit` with something that is no integer. -/
def exitRefusal (status : String) : CommandResult :=
  { stdout := exitComplaint status, exitCode := 2 }

theorem exit_of_not_integer {status : String} (h : Text.integer? status = none)
    (rest : List String) :
    exit (status :: rest) = .requestExit 2 (.reply (exitRefusal status)) := by
  rw [exit, h]
  rfl

end Builtin

namespace Shell

/-- A state in which `exit` was called and asked to stop with a code. -/
def stopped (args : List String) (code : Int) (state : State) : State :=
  { logged (.called "exit" args) state with exitStatus := some code }

variable {shell : Shell} (hfind : shell.commands.find? "exit" = some Builtin.exit)
include hfind

section

variable {args : List String} {code : Int} {result : CommandResult}
  (hexit : Builtin.exit args = .requestExit code (.reply result))
include hexit

theorem perform_exit (nested : String → Action CommandResult) (plan : Redirection.Plan)
    (cwd : String) (state : State) :
    shell.perform nested ⟨"exit", args, plan⟩ cwd state
      = .ok (.ofResult result) (stopped args code state) := by
  have hnamed : shell.commands.find? (Command.mk "exit" args plan).name = some Builtin.exit := hfind
  obtain ⟨other, after, hrun, hperform⟩ := exists_perform_of_handler nested hnamed cwd state
  dsimp only at hrun
  rw [hexit] at hrun
  obtain ⟨rfl, rfl⟩ := EStateM.Result.ok.inj hrun
  exact hperform

/-- Once its targets are prepared, `exit` asks to stop, and then its result is emitted. -/
theorem dispatch_exit {plan : Redirection.Plan} {state : State}
    (hprepare : (plan.prepare state.session.cwd state.host).1 = .ok ()) :
    shell.dispatch ⟨"exit", args, plan⟩ state =
      (do emit result plan state.session.cwd; return result)
        (stopped args code (prepared plan state)) := by
  rw [dispatch, dispatchWith_apply_of_prepared _ _ _ hprepare, Action.bind_apply,
    perform_exit hfind hexit]
  rfl

end

/-! ## Numbers -/

/-- A line that asks to stop with a number. -/
def exitLine (number : Int) : String :=
  "exit" ++ " " ++ toString number

omit hfind in
theorem isPlain_exit : IsPlain "exit" := by
  have hchars : "exit".toList = ['e', 'x', 'i', 't'] := rfl
  constructor
  · decide
  · rw [hchars]
    simp
  · rw [hchars]
    intro c hc
    simp only [List.mem_cons, List.not_mem_nil, or_false] at hc
    rcases hc with rfl | rfl | rfl | rfl <;> rfl

omit hfind in
theorem lines_exitLine (number : Int) : lines (exitLine number) = [exitLine number] :=
  isPlain_exit.lines_append_space (isPlain_toString number)

section

variable {number : Int} (hnumber : (toString number.natAbs).length ≤ Text.maxDigits)
include hnumber

omit hfind in
theorem exit_toString :
    Builtin.exit [toString number] = .requestExit (number % 256) (.reply {}) := by
  have hread : Text.integer? (toString number) = some number := by
    rw [Text.integer?_toString, if_pos hnumber]
  exact Builtin.exit_of_integer hread []

theorem dispatch_exit_toString (state : State) :
    shell.dispatch ⟨"exit", [toString number], {}⟩ state
      = .ok {} (stopped [toString number] (number % 256) state) :=
  dispatchWith_of_perform _ rfl
    (perform_exit hfind (exit_toString hnumber) _ {} state.session.cwd state)
    (deliverAll_of_silent _ _)

/-- A line that asks to stop is the last one that is executed. -/
theorem execLines_exitLine {state : State} (hrunning : state.exitStatus = none)
    (last : CommandResult) (rest : List String) :
    execLines shell.dispatch last (exitLine number :: rest) state
      = .ok {} (stopped [toString number] (number % 256) state) := by
  have hparse : Command.parse? (exitLine number) = some ⟨"exit", [toString number], {}⟩ :=
    isPlain_exit.parse?_append_space (isPlain_toString number)
  have hcontinues : state.exitStatus.isSome = false := by rw [hrunning]; rfl
  rw [execLines_cons_of_ok hcontinues hparse (dispatch_exit_toString hfind hnumber state)]
  exact execLines_of_isSome shell.dispatch rfl

/-- A text ends at the first line that asks to stop. -/
theorem exec_of_exitLine {text : String} {before rest : List String} {last : CommandResult}
    {start state : State} (htext : lines text = before ++ exitLine number :: rest)
    (hbefore : execLines shell.dispatch {} before start = .ok last state)
    (hrunning : state.exitStatus = none) :
    shell.exec text start = .ok {} (stopped [toString number] (number % 256) state) := by
  rw [exec_eq_execLines, htext, execLines_append, hbefore]
  exact execLines_exitLine hfind hnumber hrunning last rest

theorem exec_exitLine {state : State} (hrunning : state.exitStatus = none) :
    shell.exec (exitLine number) state
      = .ok {} (stopped [toString number] (number % 256) state) := by
  have htext : lines (exitLine number) = [] ++ exitLine number :: [] := lines_exitLine number
  exact exec_of_exitLine hfind hnumber htext rfl hrunning

end

/-! ## Anything else -/

/-- What comes of a call of `exit` with something that is no integer. -/
structure RefusesStatus (shell : Shell) (status : String) (command : Command) (state : State) :
    Prop where
  /-- The shell is asked to stop whatever becomes of the message. -/
  exitStatus_eq : ((shell.dispatch command).finalState state).exitStatus = some 2
  /-- The message is emitted like the output of any command. -/
  emits : shell.dispatch command state =
    (do emit (Builtin.exitRefusal status) command.plan state.session.cwd
        return Builtin.exitRefusal status)
      (stopped command.args 2 (prepared command.plan state))
  /-- Without a target it is shown. -/
  shows : command.plan.stdout = none →
    ((shell.dispatch command).finalState state).terminal.stdout
      = state.terminal.stdout ++ Builtin.exitComplaint status
  /-- With a target it is written to the file. -/
  fills : ∀ place, Path.isAbsolute state.session.cwd = true →
    command.plan.LeadsApart state.session.cwd state.host place →
    ∀ target, command.plan.stdout = some target →
      ((shell.dispatch command).finalState state).host.tree.node? (place .stdout) = some (.file
        (FileTree.written target.mode (state.host.tree.contents (place .stdout))
          (Utf8.encode (Builtin.exitComplaint status)))
        (state.host.tree.executableAt (place .stdout)))

omit hfind in
/-- Emitting leaves alone what can be read off a state without its host and its terminal. -/
theorem keeps_emit {γ : Type} {read : State → γ}
    (hdisplay : ∀ stream output, Action.Keeps read (Action.display stream output))
    (hhost : ∀ host, Action.Keeps read (Action.setHost host)) (result : CommandResult)
    (plan : Redirection.Plan) (cwd : String) : Action.Keeps read (emit result plan cwd) := by
  rw [emit_eq, deliverAll]
  exact .bind (keeps_deliverOutput (hdisplay _) (hdisplay _) hhost _ _ _) fun _ ↦
    keeps_deliverOutput (hdisplay _) (hdisplay _) hhost _ _ _

omit hfind in
/-- Without a target the standard output of a result is shown, and the standard error leaves it as
it is, whether it is shown itself or a complaint is. -/
theorem stdout_emit {plan : Redirection.Plan} (h : plan.stdout = none) (result : CommandResult)
    (cwd : String) (state : State) :
    ((emit result plan cwd).finalState state).terminal.stdout
      = state.terminal.stdout ++ result.stdout := by
  have htarget : plan.target? .stdout = none := h
  have hstderr : Action.Keeps (fun state ↦ state.terminal.stdout)
      (deliverOutput (.ofResult result) plan cwd .stderr) :=
    keeps_deliverOutput (fun _ _ ↦ rfl) (fun _ _ ↦ rfl) (fun _ _ ↦ rfl) _ _ _
  have htext : HandsOverText (.ofResult result) plan .stdout := fun _ ↦ rfl
  obtain ⟨shown, hshown, hterminal⟩ : ∃ shown,
      deliverOutput (.ofResult result) plan cwd .stdout state = .ok () shown ∧
      shown.terminal = state.terminal.display .stdout (.text result.stdout) :=
    exists_deliverOutput_of_none htarget htext
  rw [emit_eq, deliverAll, Action.finalState_bind, hshown]
  exact (hstderr shown).trans (congrArg Terminal.stdout hterminal)

omit hfind in
/-- With a target it is written to the file, once the targets are prepared. -/
theorem node?_emit {plan : Redirection.Plan} {cwd : String} {host : Host}
    {place : Stream → Place} (hplan : plan.LeadsApart cwd host place)
    (habsolute : Path.isAbsolute cwd = true) {state : State}
    (hprepared : state.host = (plan.prepare cwd host).2) {stream : Stream}
    {target : Redirection.Target} (htarget : plan.target? stream = some target)
    (result : CommandResult) :
    ((emit result plan cwd).finalState state).host.tree.node? (place stream) = some (.file
      (FileTree.written target.mode (host.tree.contents (place stream))
        (Utf8.encode (result.text stream)))
      (host.tree.executableAt (place stream))) := by
  have hbecomes : host.tree.Becomes state.host.tree := by
    rw [hprepared]
    exact (Redirection.becomes_prepareTargets _ _ _).tree
  obtain ⟨after, hafter, hreceives, -⟩ : ∃ after,
      deliverAll (.ofResult result) plan cwd state = .ok () after ∧ _ ∧ _ :=
    exists_deliverAll habsolute (hplan.of_becomes habsolute hbecomes) fun _ _ ↦ rfl
  have hreceived := hreceives stream target htarget
  rw [hprepared] at hreceived
  rw [emit_eq, Action.finalState_of_ok hafter]
  exact hplan.receives_of_prepare habsolute htarget hreceived

/-- **`exit` refuses** everything that is no integer, once its targets are prepared. -/
theorem refusesStatus {status : String} (hstatus : Text.integer? status = none) (rest : List String)
    {plan : Redirection.Plan} {state : State}
    (hprepare : (plan.prepare state.session.cwd state.host).1 = .ok ()) :
    shell.RefusesStatus status ⟨"exit", status :: rest, plan⟩ state := by
  have hemits := dispatch_exit hfind (Builtin.exit_of_not_integer hstatus rest) hprepare
  have hends : (shell.dispatch ⟨"exit", status :: rest, plan⟩).finalState state =
      (emit (Builtin.exitRefusal status) plan state.session.cwd).finalState
        (stopped (status :: rest) 2 (prepared plan state)) := by
    rw [Action.finalState, hemits, ← Action.finalState, Action.finalState_bind, Action.finalState]
    cases emit (Builtin.exitRefusal status) plan state.session.cwd
      (stopped (status :: rest) 2 (prepared plan state)) <;> rfl
  refine ⟨?_, hemits, fun htarget ↦ ?_, fun place habsolute hplan target htarget ↦ ?_⟩
  · rw [hends]
    exact keeps_emit (fun _ _ _ ↦ rfl) (fun _ _ ↦ rfl) _ _ _ _
  · rw [hends, stdout_emit htarget]
    rfl
  · have hstdout : plan.target? .stdout = some target := htarget
    rw [hends]
    exact node?_emit hplan habsolute rfl hstdout _

end Shell

end LineShell
