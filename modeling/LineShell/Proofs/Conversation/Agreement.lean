import LineShell.Program
import LineShell.Proofs.Conversation.Turns
import Mathlib.Data.List.ReduceOption

/-!
# Conversations and executed texts

A conversation executes line by line what could have been executed as one text. The two are set
against each other turn by turn: `Conversation.Agrees` says that a conversation and the execution of
a text dispatch the same commands, leave the same state, and show the same, apart from the prompts
and the line feeds after lines that were broken off.

Agreement is proved by induction on what the user does. A line that is taken is executed, once in
the state of the conversation and once in that of the execution. These two differ in what the
terminal shows only, and no execution looks at that; so they differ in nothing else afterwards.

What ends a conversation besides a request to stop and the end of the input is a fault. It then ends
the execution too. A NUL character in the path of a redirection target is enough for that
(`Program.nul_ends_conversation`).
-/

namespace LineShell

/-! ## What executing a text comes to -/

/-- What executing a text comes to. -/
structure Executed where
  commands : List Command
  /-- The fault that it ends with, if it does. -/
  fault? : Option Fault
  final : State

/-- How a run ends that executes a text, given the code that it ends with if it is not asked to stop
with another one. -/
def Executed.ending (executed : Executed) (code : Int) : Ending :=
  match executed.fault? with
  | some fault => .failed fault
  | none => .exited (executed.final.exitStatus.getD code)

namespace Shell

variable (shell : Shell)

/-- What executing a text in a state comes to. -/
def executed (text : String) (state : State) : Executed where
  commands := shell.dispatched text state
  fault? := match shell.exec text state with
    | .error fault _ => some fault
    | .ok _ _ => none
  final := (shell.exec text).finalState state

theorem executed_empty (state : State) : shell.executed "" state = ⟨[], none, state⟩ := rfl

theorem executed_of_isSome {text : String} {state : State} (h : state.exitStatus.isSome = true) :
    shell.executed text state = ⟨[], none, state⟩ := by
  rw [executed, Action.finalState, shell.exec_of_isSome text h, dispatched,
    dispatchedLines_of_isSome shell.dispatch h]

/-- Two texts with a line feed between them come to what the first comes to if it ends with a fault,
and otherwise to that and then what the second comes to. -/
theorem executed_append_newline (a b : String) (state : State) :
    shell.executed (a ++ "\n" ++ b) state =
      match shell.exec a state with
      | .error fault middle => ⟨shell.dispatched a state, some fault, middle⟩
      | .ok _ middle =>
        { shell.executed b middle with
          commands := shell.dispatched a state ++ (shell.executed b middle).commands } := by
  rw [executed, Action.finalState, dispatched_append_newline, exec_append_newline_apply]
  cases shell.exec a state with
  | error fault middle =>
    dsimp only
    rw [List.append_nil]
  | ok first middle =>
    dsimp only
    rw [executed, Action.finalState]
    cases shell.exec b middle <;> rfl

/-- Lines joined to one text come to the first line with a line feed and then the others. -/
theorem executed_intercalate_cons (text : String) (rest : List String) (state : State) :
    shell.executed ("\n".intercalate (text :: rest)) state
      = shell.executed (text ++ "\n" ++ "\n".intercalate rest) state := by
  cases rest with
  | cons next rest => rw [String.intercalate_cons_cons]
  | nil =>
    rw [executed_append_newline]
    change shell.executed text state = _
    rw [executed, Action.finalState]
    cases shell.exec text state with
    | error fault middle => rfl
    | ok first middle =>
      exact congrArg (Executed.mk · none middle) (List.append_nil _).symm

end Shell

namespace Conversation

/-! ## Agreement -/

/-- Whether what a conversation comes to, beginning with its prompt, and what executing a text in a
state comes to agree. -/
structure Agrees (shell : Shell) (conversation : Conversation) (events : List (Option String))
    (held : Held) (state : State) (executed : Executed) : Prop where
  /-- They dispatch the same commands. -/
  dispatched_eq : held.turns.flatMap (Turn.dispatched shell) = executed.commands
  /-- They leave the same state, apart from what the terminal shows. -/
  blank_eq : held.last.state.blank = executed.final.blank
  /-- The user sees the turns of the conversation. -/
  seen_eq : held.last.state.terminal = conversation.state.terminal ++
    Terminal.join (held.turns.map (Turn.seen shell conversation.prompt))
  /-- The execution shows what the commands of the turns show. -/
  shown_eq : executed.final.terminal = state.terminal ++
    Terminal.join (held.turns.map (Turn.shown shell))
  /-- There is one prompt for each turn. -/
  prompts_eq : held.last.prompts = conversation.prompts + held.turns.length
  /-- No turn begins once the shell was asked to stop. -/
  running : ∀ turn ∈ held.turns, turn.state.exitStatus = none
  /-- The turns follow what the user does. -/
  answers_prefix : held.turns.map Turn.answer <+: events.map .ofLine? ++ [.endOfInput]
  /-- The conversation ends with the fault of the execution or the status that was asked for. -/
  ending_eq : held.ending = executed.ending 0
  /-- If there is neither, it ends at the end of the input. -/
  answers_eq : executed.fault? = none → executed.final.exitStatus = none →
    held.turns.map Turn.answer = events.map .ofLine? ++ [.endOfInput]

variable {shell : Shell} {conversation : Conversation} (rest : List (Option String))
  {state : State} (hsame : conversation.state.blank = state.blank)
  (hrunning : state.exitStatus = none)
include hsame hrunning

theorem exitStatus_eq_none : conversation.state.exitStatus = none :=
  (congrArg State.exitStatus hsame).trans hrunning

theorem agrees_nil :
    Agrees shell conversation [] (conversation.ask.held shell []) state
      (shell.executed "" state) where
  dispatched_eq := rfl
  blank_eq := hsame
  seen_eq := by
    change conversation.ask.state.terminal = _ ++ ((_ ++ {}) ++ {})
    rw [terminal_ask, Terminal.append_empty, Terminal.append_empty]
  shown_eq := (Terminal.append_empty _).symm
  prompts_eq := rfl
  running := by
    intro turn hturn
    rw [List.mem_singleton.mp hturn]
    exact exitStatus_eq_none hsame hrunning
  answers_prefix := List.prefix_rfl
  ending_eq := by
    rw [Shell.executed_empty, Executed.ending]
    dsimp only
    rw [hrunning]
    rfl
  answers_eq := fun _ _ ↦ rfl

theorem agrees_interrupt {held : Held} {executed : Executed}
    (h : Agrees shell (conversation.ask.display "\n") rest held state executed) :
    Agrees shell conversation (none :: rest)
      { held with turns := ⟨.interrupt, conversation.ask.state⟩ :: held.turns } state executed where
  dispatched_eq := h.dispatched_eq
  blank_eq := h.blank_eq
  seen_eq := by
    have hfeed : (conversation.ask.display "\n").state.terminal =
        conversation.state.terminal ++
          ({ stdout := conversation.prompt } ++ { stdout := "\n" }) := by
      rw [← Terminal.append_assoc, ← terminal_ask, Terminal.append_def, String.append_empty]
      rfl
    rw [h.seen_eq, hfeed, Terminal.append_assoc]
    rfl
  shown_eq := by
    rw [h.shown_eq, List.map_cons, Terminal.join_cons, Turn.shown, Terminal.empty_append]
  prompts_eq := by
    rw [h.prompts_eq, List.length_cons, Nat.add_comm held.turns.length, ← Nat.add_assoc]
    rfl
  running := by
    intro turn hturn
    rcases List.mem_cons.mp hturn with rfl | hlater
    · exact exitStatus_eq_none hsame hrunning
    · exact h.running turn hlater
  answers_prefix := List.cons_prefix_cons.mpr ⟨rfl, h.answers_prefix⟩
  ending_eq := h.ending_eq
  answers_eq := fun hfault hexit ↦ congrArg (Answer.interrupt :: ·) (h.answers_eq hfault hexit)

/-! ### Lines that are taken -/

section Line

variable {text : String} {base : State} (hshows : shell.shows text state = base.terminal)

/-- A conversation that has executed a line, given what this execution leaves by itself. -/
def afterLine (conversation : Conversation) (base : State) : Conversation :=
  { conversation.ask with state := base.withShown conversation.ask.state.terminal }

omit hrunning in
theorem dispatched_turn : Turn.dispatched shell ⟨.line text, conversation.ask.state⟩
    = shell.dispatched text state :=
  shell.dispatched_congr text hsame

include hshows

omit hrunning in
theorem shown_turn : Turn.shown shell ⟨.line text, conversation.ask.state⟩ = base.terminal :=
  (shell.shows_congr text hsame).trans hshows

omit hrunning in
theorem terminal_afterLine : (conversation.afterLine base).state.terminal
    = conversation.state.terminal
      ++ Turn.seen shell conversation.prompt ⟨.line text, conversation.ask.state⟩ := by
  have hshown : shell.shows text conversation.ask.state = base.terminal :=
    shown_turn hsame hshows
  rw [Turn.seen]
  dsimp only
  rw [hshown, ← Terminal.append_assoc, ← terminal_ask]
  rfl

/-- The last turn of a conversation that ends before the input does. -/
theorem agrees_last {executed : Executed} {ending : Ending}
    (hcommands : executed.commands = shell.dispatched text state)
    (hfinal : executed.final = base.withShown state.terminal)
    (hending : executed.ending 0 = ending)
    (hends : executed.fault? = none → base.exitStatus ≠ none) :
    Agrees shell conversation (some text :: rest)
      ⟨ending, conversation.afterLine base, [⟨.line text, conversation.ask.state⟩]⟩ state
      executed where
  dispatched_eq := by
    rw [List.flatMap_singleton, hcommands]
    exact dispatched_turn hsame
  blank_eq := by
    rw [hfinal]
    rfl
  seen_eq := by
    rw [List.map_singleton, Terminal.join_cons, Terminal.join_nil, Terminal.append_empty]
    exact terminal_afterLine hsame hshows
  shown_eq := by
    rw [List.map_singleton, Terminal.join_cons, Terminal.join_nil, Terminal.append_empty,
      shown_turn hsame hshows, hfinal, State.withShown_terminal]
  prompts_eq := rfl
  running := by
    intro turn hturn
    rw [List.mem_singleton.mp hturn]
    exact exitStatus_eq_none hsame hrunning
  answers_prefix := List.cons_prefix_cons.mpr ⟨rfl, List.nil_prefix⟩
  ending_eq := hending.symm
  answers_eq := fun hfault hexit ↦ by
    rw [hfinal] at hexit
    exact absurd hexit (hends hfault)

/-- A turn of a conversation that goes on. -/
theorem agrees_line {held : Held} {executed : Executed}
    (h : Agrees shell (conversation.afterLine base) rest held (base.withShown state.terminal)
      executed) :
    Agrees shell conversation (some text :: rest)
      { held with turns := ⟨.line text, conversation.ask.state⟩ :: held.turns } state
      { executed with commands := shell.dispatched text state ++ executed.commands } where
  dispatched_eq := by
    rw [List.flatMap_cons, dispatched_turn hsame, h.dispatched_eq]
  blank_eq := h.blank_eq
  seen_eq := by
    rw [h.seen_eq, terminal_afterLine hsame hshows, Terminal.append_assoc]
    rfl
  shown_eq := by
    rw [h.shown_eq, List.map_cons, Terminal.join_cons, shown_turn hsame hshows,
      State.withShown_terminal, Terminal.append_assoc]
  prompts_eq := by
    rw [h.prompts_eq, List.length_cons, Nat.add_comm held.turns.length, ← Nat.add_assoc]
    rfl
  running := by
    intro turn hturn
    rcases List.mem_cons.mp hturn with rfl | hlater
    · exact exitStatus_eq_none hsame hrunning
    · exact h.running turn hlater
  answers_prefix := List.cons_prefix_cons.mpr ⟨rfl, h.answers_prefix⟩
  ending_eq := h.ending_eq
  answers_eq := fun hfault hexit ↦ congrArg (Answer.line text :: ·) (h.answers_eq hfault hexit)

end Line

/-! ### Whole conversations -/

omit hsame hrunning in
/-- **A conversation agrees with the execution of its lines**, by induction on what the user
does. -/
theorem agrees_held (shell : Shell) (conversation : Conversation) (events : List (Option String))
    (state : State) (hsame : conversation.state.blank = state.blank)
    (hrunning : state.exitStatus = none) :
    Agrees shell conversation events (conversation.ask.held shell events) state
      (shell.executed ("\n".intercalate events.reduceOption) state) := by
  induction events generalizing conversation state with
  | nil => exact agrees_nil hsame hrunning
  | cons line? rest ih =>
    cases line? with
    | none =>
      have hnext : (conversation.ask.display "\n").ask.state.exitStatus = none :=
        exitStatus_eq_none hsame hrunning
      rw [held_of_next rest take_interrupt hnext, List.reduceOption_cons_of_none]
      exact agrees_interrupt rest hsame hrunning
        (ih (conversation.ask.display "\n") state hsame hrunning)
    | some text =>
      have hstate := shell.exec_eq_mapState text state
      have hasked := shell.exec_eq_mapState text conversation.ask.state
      rw [show conversation.ask.state.blank = state.blank from hsame] at hasked
      rw [List.reduceOption_cons_of_some, Shell.executed_intercalate_cons,
        Shell.executed_append_newline, hstate]
      cases hbase : shell.exec text state.blank with
      | error fault base =>
        have hshows : shell.shows text state = base.terminal := by
          rw [Shell.shows, Action.finalState, hbase]
        rw [hbase] at hasked
        rw [held_of_fault rest (take_line_of_error hasked)]
        exact agrees_last rest hsame hrunning hshows rfl rfl rfl fun hfault ↦
          absurd hfault (Option.some_ne_none fault)
      | ok result base =>
        have hshows : shell.shows text state = base.terminal := by
          rw [Shell.shows, Action.finalState, hbase]
        rw [hbase] at hasked
        have htake := take_line_of_ok hasked
        rw [State.withShown_exitStatus] at htake
        dsimp only [Action.mapState]
        cases hexit : base.exitStatus with
        | some code =>
          -- What comes after the request to stop is not executed.
          have hstopped : (base.withShown state.terminal).exitStatus.isSome = true := by
            rw [State.withShown_exitStatus, hexit]
            rfl
          rw [hexit, Option.isSome_some, if_pos rfl] at htake
          rw [held_of_exit rest htake hexit, Shell.executed_of_isSome shell hstopped]
          dsimp only
          rw [List.append_nil]
          have hends : base.exitStatus ≠ none := by
            rw [hexit]
            exact Option.some_ne_none code
          refine agrees_last rest hsame hrunning hshows rfl rfl ?_ fun _ ↦ hends
          rw [Executed.ending]
          dsimp only
          rw [State.withShown_exitStatus, hexit]
          rfl
        | none =>
          rw [hexit, Option.isSome_none, if_neg Bool.false_ne_true] at htake
          rw [held_of_next rest htake hexit]
          exact agrees_line rest hsame hrunning hshows
            (ih (conversation.afterLine base) (base.withShown state.terminal) rfl hexit)

end Conversation

namespace Program

/-! ## The two ways to run the program -/

/-- How the execution of a text ends. -/
theorem exists_execText_eq (shell : Shell) (state : State) (text : String) :
    ∃ code, execText shell state text =
      ((shell.executed text state).ending code, (shell.executed text state).final) := by
  rw [execText, Shell.executed, Action.finalState]
  cases shell.exec text state with
  | error fault final => exact ⟨0, rfl⟩
  | ok result final => exact ⟨result.exitCode, rfl⟩

/-- **Conversing and executing agree.** With the same flags and in the same surroundings, holding a
conversation and executing the lines that are given in it, joined to one text, either end with the
same complaint about the settings or agree: see `Conversation.Agrees`. If the shell was asked to
stop or a fault came up, both end in the same way. -/
theorem conversing_agrees_with_executing (surroundings : Surroundings) (flags : Invocation.Flags)
    (events : List (Option String)) :
    let text := "\n".intercalate events.reduceOption
    let conversing := startInvocation surroundings ⟨.converse, flags⟩
    let executing := startInvocation surroundings ⟨.exec text, flags⟩
    match configure surroundings flags with
    | .error _ => ∃ outcome, conversing = .ended outcome ∧ executing = .ended outcome
    | .ok settings =>
      let shell := shell surroundings
      let state := initialState surroundings settings
      let conversation : Conversation :=
        { prompt := settings.prompt, state
          editor := if surroundings.isTerminal then some { prompt := settings.prompt } else none }
      let executed := shell.executed text state
      let held := conversation.ask.held shell events
      conversing = .conversing shell conversation.ask ∧
      (∃ code, executing = .ended {
        ending := executed.ending code
        terminal := executed.final.terminal
        host := executed.final.host }) ∧
      conversation.Agrees shell events held state executed := by
  intro text conversing executing
  cases hsettings : configure surroundings flags with
  | error e =>
    refine ⟨endEarly surroundings.host 2 ""
      (Page.general.usage ++ shellMessage ("error: " ++ e.message)), ?_, ?_⟩
    · change startInvocation surroundings ⟨.converse, flags⟩ = _
      rw [startInvocation, hsettings]
    · change startInvocation surroundings ⟨.exec text, flags⟩ = _
      rw [startInvocation, hsettings]
  | ok settings =>
    refine ⟨?_, ?_, Conversation.agrees_held _ _ events _ rfl rfl⟩
    · change startInvocation surroundings ⟨.converse, flags⟩ = _
      rw [startInvocation, hsettings]
      rfl
    · obtain ⟨code, hcode⟩ := exists_execText_eq (shell surroundings)
        (initialState surroundings settings) text
      refine ⟨code, ?_⟩
      change startInvocation surroundings ⟨.exec text, flags⟩ = _
      rw [startInvocation, hsettings]
      dsimp only
      rw [hcode]

/-- A NUL character in the path of a target ends a conversation, though no line asks the shell to
stop and there is more input. -/
theorem nul_ends_conversation :
    let surroundings : Surroundings := {
      environment := [("HOME", "/")]
      host := {}
      launcher := fun host _ ↦ (.ok {}, host) }
    let outcome := run surroundings ["shell"] [.line "echo a > x\x00y", .line "echo b"]
    outcome.ending = .failed .hasNul ∧ outcome.prompts = 1 ∧ outcome.terminal.stdout = "$ " := by
  decide +kernel

end Program

end LineShell
