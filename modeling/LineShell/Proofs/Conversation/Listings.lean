import LineShell.Program
import LineShell.Proofs.Completion.Presses

/-!
# Listings in a conversation

A press of the completion key lists names if the engine finds its count positive, and the engine
counts presses only. Lines that are executed and lines that are broken off pass it by: nothing tells
it that a new prompt was shown. So whether a press lists names is decided by the presses of the
whole conversation, taken without what happened between them (`Conversation.exchanges`).

A press that is not the first one at its prompt therefore lists names only after a press of the same
line at that prompt, since the press before it belongs to the streak. But the first press at a
prompt may carry on a streak from an earlier prompt (`Program.first_press_lists`).
-/

namespace LineShell

/-! ## Presses -/

/-- Whether the completion key is answered at a press: it is the first question, and the first word
of the line is to be completed. -/
def Press.isAnswered (press : Press) : Bool :=
  press.question == 0 && !press.isPastCommand

namespace LineEditor

variable (editor : LineEditor) (shell : Shell) (state : State) {press : Press}

theorem press_of_not_isAnswered (h : press.isAnswered = false) :
    editor.press shell state press = (.ok none, editor, state) := by
  rw [Press.isAnswered, Bool.and_eq_false_iff, beq_eq_false_iff_ne, Bool.not_eq_false'] at h
  rw [LineEditor.press, if_pos h]

theorem press_of_isAnswered (h : press.isAnswered = true) :
    editor.press shell state press =
      match shell.complete state editor.engine press.buffer with
      | (.error fault, engine) => (.error fault, { editor with engine }, state)
      | (.ok completion, engine) =>
        let output := .text (shown editor.prompt press.buffer completion)
        (.ok (answer completion), { editor with engine },
          { state with terminal := state.terminal.display .stdout output }) := by
  rw [Press.isAnswered, Bool.and_eq_true, beq_iff_eq, Bool.not_eq_true'] at h
  rw [LineEditor.press, if_neg (by simp [h.1, h.2])]
  cases shell.complete state editor.engine press.buffer with
  | mk outcome engine => cases outcome <;> rfl

theorem toList_listing (prompt buffer : String) (names : List String) :
    ∃ rest, (listing prompt buffer names).toList = '\n' :: rest := by
  rw [listing, String.append_assoc, String.append_assoc, String.append_assoc,
    String.toList_append]
  exact ⟨_, rfl⟩

/-- What is shown is a listing only if names are listed. -/
theorem exists_eq_list_of_shown {prompt buffer prompt' buffer' : String} {completion : Completion}
    {names : List String} (h : shown prompt buffer completion = listing prompt' buffer' names) :
    ∃ word names, completion = .list word names := by
  obtain ⟨rest, hrest⟩ := toList_listing prompt' buffer' names
  rw [← h] at hrest
  cases completion with
  | nothing => contradiction
  | bell word names =>
    have hbell : bell.toList = ['\x07'] := by decide
    rw [shown, hbell] at hrest
    exact absurd (List.cons.inj hrest).1 (by decide)
  | replace word replacement names => contradiction
  | list word names => exact ⟨word, names, rfl⟩

end LineEditor

namespace Conversation

/-! ## The course of a conversation -/

/-- The conversations that come up when inputs are taken, each of which leaves the conversation
going on. -/
inductive Reaches (shell : Shell) (start : Conversation) : List Input → Conversation → Prop
  | nil : Reaches shell start [] start
  | snoc {inputs : List Input} {input : Input} {current next : Conversation} :
      Reaches shell start inputs current → current.take shell input = (.ok (), next) →
      next.state.exitStatus = none → Reaches shell start (inputs ++ [input]) next

/-- What an input asks the engine. -/
def asked (shell : Shell) (conversation : Conversation) : Input → List Engine.Request
  | .press press =>
    if press.isAnswered then [.complete shell conversation.state press.buffer] else []
  | .line _ | .interrupt => []

/-- What the engine is asked while inputs are taken. -/
def requests (shell : Shell) (conversation : Conversation) : List Input → List Engine.Request
  | [] => []
  | input :: rest =>
    conversation.asked shell input ++ (conversation.take shell input).2.requests shell rest

/-- What the engine is asked and answers while inputs are taken. -/
def exchanges (shell : Shell) (conversation : Conversation) (inputs : List Input) :
    List Engine.Exchange :=
  (Engine.respondAll {} (conversation.requests shell inputs)).1

/-- Whether a press would list names: it would show a listing for its line. -/
def Lists (shell : Shell) (conversation : Conversation) (press : Press) : Prop :=
  ∃ names, (conversation.take shell (.press press)).2.state.terminal.stdout =
    conversation.state.terminal.stdout ++
      LineEditor.listing conversation.prompt press.buffer names

namespace Reaches

variable {shell : Shell} {start current : Conversation} {inputs : List Input}
  (h : start.Reaches shell inputs current)
include h

/-- Another input is taken, if it neither ends with a fault nor asks the shell to stop. -/
theorem take {input : Input} (hok : (current.take shell input).1.isOk = true)
    (hrunning : (current.take shell input).2.state.exitStatus = none) :
    start.Reaches shell (inputs ++ [input]) (current.take shell input).2 := by
  refine h.snoc (Prod.ext ?_ rfl) hrunning
  cases houtcome : (current.take shell input).1 with
  | error fault =>
    rw [houtcome] at hok
    contradiction
  | ok => rfl

/-- A conversation that is taken up where it was left goes on as it would have. -/
theorem run_append (rest : List Input) :
    start.run shell (inputs ++ rest) = current.run shell rest := by
  induction h generalizing rest with
  | nil => rfl
  | snoc _ htake hrunning ih =>
    rw [List.append_assoc, List.singleton_append, ih, run, htake]
    dsimp only
    rw [hrunning]

theorem requests_append (rest : List Input) :
    start.requests shell (inputs ++ rest)
      = start.requests shell inputs ++ current.requests shell rest := by
  induction h generalizing rest with
  | nil => rfl
  | @snoc inputs input current next _ htake _ ih =>
    rw [List.append_assoc, List.singleton_append, ih, ih [input], requests, requests, htake,
      requests, List.append_nil, List.append_assoc]

end Reaches

/-! ## What the engine learns -/

section Editor

variable (shell : Shell) {conversation : Conversation} {engine : Engine}
  (h : conversation.editor = some { prompt := conversation.prompt, engine })
include h

/-- Whatever is taken, the engine is asked what it is asked, and nothing else reaches it. -/
theorem editor_take (input : Input) :
    (conversation.take shell input).2.editor = some {
      prompt := (conversation.take shell input).2.prompt
      engine := (engine.respondAll (conversation.asked shell input)).2 } := by
  cases input with
  | line text =>
    rw [take, takeLine]
    cases shell.exec text conversation.state with
    | error fault after => exact h
    | ok result after =>
      dsimp only
      split_ifs <;> exact h
  | interrupt => exact h
  | press press =>
    rw [take, takePress, h]
    cases hanswered : press.isAnswered with
    | false =>
      dsimp only
      rw [LineEditor.press_of_not_isAnswered _ _ _ hanswered, asked, hanswered,
        if_neg Bool.false_ne_true]
      rfl
    | true =>
      dsimp only
      rw [LineEditor.press_of_isAnswered _ _ _ hanswered, asked, hanswered, if_pos rfl,
        Engine.respondAll_singleton, Engine.respond]
      dsimp only
      cases shell.complete conversation.state engine press.buffer with
      | mk outcome after => cases outcome <;> rfl

/-- A press shows a listing exactly if it is answered and the engine lists names. -/
theorem lists_iff (press : Press) :
    conversation.Lists shell press ↔ press.isAnswered = true ∧
      ∃ word names, (shell.complete conversation.state engine press.buffer).1
        = .ok (.list word names) := by
  have hsilent : ∀ names, conversation.state.terminal.stdout ≠
      conversation.state.terminal.stdout ++
        LineEditor.listing conversation.prompt press.buffer names := by
    intro names hsame
    obtain ⟨rest, hrest⟩ := LineEditor.toList_listing conversation.prompt press.buffer names
    rw [String.append_eq_left_iff.mp hsame.symm] at hrest
    contradiction
  rw [Lists, take, takePress, h]
  cases hanswered : press.isAnswered with
  | false =>
    dsimp only
    rw [LineEditor.press_of_not_isAnswered _ _ _ hanswered]
    exact iff_of_false (fun ⟨names, hnames⟩ ↦ hsilent names hnames) fun hboth ↦
      Bool.false_ne_true hboth.1
  | true =>
    dsimp only
    rw [LineEditor.press_of_isAnswered _ _ _ hanswered, and_iff_right rfl]
    dsimp only
    cases shell.complete conversation.state engine press.buffer with
    | mk outcome after =>
      cases outcome with
      | error fault =>
        refine iff_of_false (fun ⟨names, hnames⟩ ↦ hsilent names hnames) ?_
        rintro ⟨word, names, hlist⟩
        contradiction
      | ok completion =>
        constructor
        · rintro ⟨names, hnames⟩
          obtain ⟨word, names, rfl⟩ :=
            LineEditor.exists_eq_list_of_shown ((String.append_right_inj _).mp hnames)
          exact ⟨word, names, rfl⟩
        · rintro ⟨word, names, hlist⟩
          obtain rfl := Except.ok.inj hlist
          exact ⟨names, rfl⟩

end Editor

/-! ## The law of listings -/

namespace Reaches

variable {shell : Shell} {start current : Conversation} {inputs : List Input}
  (h : start.Reaches shell inputs current) (hstart : start.editor = some { prompt := start.prompt })
include h hstart

/-- The engine has been asked what the conversation comes to, by induction on its course. -/
theorem editor_eq : current.editor = some {
    prompt := current.prompt
    engine := (Engine.respondAll {} (start.requests shell inputs)).2 } := by
  induction h with
  | nil => exact hstart
  | @snoc inputs input current next hreaches htake _ ih =>
    have heditor := editor_take shell ih input
    rw [htake] at heditor
    rw [hreaches.requests_append, requests, requests, List.append_nil, Engine.respondAll_append]
    exact heditor

theorem lists_iff_of_reaches (press : Press) :
    current.Lists shell press ↔ press.isAnswered = true ∧
      (∃ names, Engine.Stuck shell current.state press.buffer names) ∧
      Engine.Streak (start.exchanges shell inputs) press.buffer := by
  rw [lists_iff shell (h.editor_eq hstart), Engine.complete_lists_iff,
    Engine.pressesOn_respondAll_pos_iff]
  rfl

omit hstart in
/-- If the presses at the end of the course hold one that is answered, a streak takes in the last
one of these, by induction on the course. -/
theorem exists_press_of_streak {buffer : String}
    (hstreak : Engine.Streak (start.exchanges shell inputs) buffer) {before : List Input}
    {presses : List Press} (hinputs : inputs = before ++ presses.map Input.press)
    (hanswered : ∃ press ∈ presses, press.isAnswered = true) :
    ∃ press ∈ presses, press.isAnswered = true ∧ press.buffer = buffer := by
  induction h generalizing before presses with
  | nil =>
    obtain ⟨press, hpress, -⟩ := hanswered
    obtain ⟨-, hmap⟩ := List.append_eq_nil_iff.mp hinputs.symm
    rw [List.map_eq_nil_iff.mp hmap] at hpress
    contradiction
  | @snoc inputs input current next hreaches htake _ ih =>
    rcases List.eq_nil_or_concat presses with rfl | ⟨earlier, last, rfl⟩
    · obtain ⟨press, hpress, -⟩ := hanswered
      contradiction
    rw [List.concat_eq_append] at hinputs hanswered ⊢
    rw [List.map_append, ← List.append_assoc] at hinputs
    obtain ⟨rfl, hlast⟩ := List.append_inj' hinputs rfl
    obtain rfl := List.singleton_inj.mp hlast
    rw [exchanges, hreaches.requests_append, requests, requests, List.append_nil,
      Engine.respondAll_append, asked] at hstreak
    -- A press that is not answered leaves no exchange, so the streak is the one before it.
    cases hpress : last.isAnswered with
    | false =>
      rw [hpress, if_neg Bool.false_ne_true, Engine.respondAll, List.append_nil] at hstreak
      have hearlier : ∃ press ∈ earlier, press.isAnswered = true := by
        obtain ⟨press, hmem, hyes⟩ := hanswered
        rcases List.mem_append.mp hmem with hmem | hmem
        · exact ⟨press, hmem, hyes⟩
        · rw [List.mem_singleton.mp hmem, hpress] at hyes
          contradiction
      obtain ⟨press, hmem, hpress⟩ := ih hstreak rfl hearlier
      exact ⟨press, List.mem_append_left _ hmem, hpress⟩
    | true =>
      rw [hpress, if_pos rfl, Engine.respondAll_singleton, Engine.streak_append_iff] at hstreak
      obtain ⟨⟨⟨_, _, hrequest⟩, -⟩, -⟩ := hstreak
      obtain ⟨-, -, hbuffer⟩ := Engine.Request.complete.inj hrequest
      exact ⟨last, List.mem_append_right _ (List.mem_singleton_self _), hpress, hbuffer⟩

end Reaches

end Conversation

namespace Program

/-- A conversation that the program holds begins in the state that its settings give. -/
theorem exists_eq_of_start {surroundings : Surroundings} {arguments : List String} {shell : Shell}
    {conversation : Conversation}
    (h : start surroundings arguments = .conversing shell conversation) :
    shell = Program.shell surroundings ∧ ∃ settings : Settings,
      conversation = Conversation.start (initialState surroundings settings) settings.prompt
        surroundings.isTerminal := by
  rw [start] at h
  cases hinvocation : Invocation.ofArguments arguments with
  | error e =>
    rw [hinvocation] at h
    cases e <;> contradiction
  | ok invocation =>
    rw [hinvocation] at h
    dsimp only at h
    rw [startInvocation] at h
    cases hsettings : configure surroundings invocation.flags with
    | error e =>
      rw [hsettings] at h
      contradiction
    | ok settings =>
      rw [hsettings] at h
      dsimp only at h
      cases htask : invocation.task with
      | exec text =>
        rw [htask] at h
        contradiction
      | converse =>
        rw [htask] at h
        obtain ⟨rfl, rfl⟩ := Started.conversing.inj h
        exact ⟨rfl, settings, rfl⟩

theorem editor_of_start {surroundings : Surroundings} (hterminal : surroundings.isTerminal = true)
    {arguments : List String} {shell : Shell} {conversation : Conversation}
    (h : start surroundings arguments = .conversing shell conversation) :
    conversation.editor = some { prompt := conversation.prompt } := by
  obtain ⟨-, settings, rfl⟩ := exists_eq_of_start h
  rw [hterminal]
  rfl

theorem start_shell_eq {surroundings : Surroundings} (settings : Settings)
    (h : (configure surroundings {}).toOption = some settings) :
    start surroundings ["shell"] = .conversing (shell surroundings)
      (Conversation.start (initialState surroundings settings) settings.prompt
        surroundings.isTerminal) := by
  have hinvocation : Invocation.ofArguments ["shell"] = .ok ⟨.converse, {}⟩ := rfl
  rw [start, hinvocation]
  dsimp only
  rw [startInvocation]
  cases hsettings : configure surroundings {} with
  | error e =>
    rw [hsettings] at h
    contradiction
  | ok other =>
    rw [hsettings] at h
    obtain rfl := Option.some.inj h
    rfl

/-- **When a press lists names.** Take any run of the program at a terminal up to any prompt, and a
press there. It shows a listing exactly if it is answered, the engine is stuck at its line, and the
presses of the conversation so far end in a streak on that line, whatever happened between them. If
there was a press at the prompt before it that was answered, then one of these was of the same
line. -/
theorem lists_iff_streak_of_presses (surroundings : Surroundings)
    (hterminal : surroundings.isTerminal = true) (arguments : List String) {shell : Shell}
    {first : Conversation} (hstart : start surroundings arguments = .conversing shell first)
    {inputs : List Input} {current : Conversation}
    (hreaches : first.Reaches shell inputs current) (press : Press) :
    (current.Lists shell press ↔ press.isAnswered = true ∧
      (∃ names, Engine.Stuck shell current.state press.buffer names) ∧
      Engine.Streak (first.exchanges shell inputs) press.buffer) ∧
    (current.Lists shell press → ∀ before (presses : List Press),
      inputs = before ++ presses.map Input.press →
      (∃ earlier ∈ presses, earlier.isAnswered = true) →
      ∃ earlier ∈ presses, earlier.isAnswered = true ∧ earlier.buffer = press.buffer) := by
  have hlists := hreaches.lists_iff_of_reaches (editor_of_start hterminal hstart) press
  refine ⟨hlists, fun hpress before presses hinputs hanswered ↦ ?_⟩
  exact hreaches.exists_press_of_streak (hlists.mp hpress).2.2 hinputs hanswered

/-- The second press of a line at a prompt lists the names that the first one rang the bell
about. -/
theorem second_press_lists :
    let surroundings : Surroundings := {
      environment := [("HOME", "/")]
      host := {}
      launcher := fun host _ ↦ (.ok {}, host)
      isTerminal := true }
    let shell := shell surroundings
    let first := Conversation.start
      (initialState surroundings ⟨"", "/", "$ ", .warning, "/"⟩) "$ " true
    let press : Press := { buffer := "e" }
    let current := (first.take shell (.press press)).2
    start surroundings ["shell"] = .conversing shell first ∧
    first.Reaches shell [.press press] current ∧ current.Lists shell press ∧
    Engine.Streak (first.exchanges shell [.press press]) "e" := by
  intro surroundings shell first press current
  have hstart : start surroundings ["shell"] = .conversing shell first :=
    start_shell_eq ⟨"", "/", "$ ", .warning, "/"⟩ (by decide +kernel)
  have hreaches : first.Reaches shell [.press press] current :=
    Conversation.Reaches.nil.take (by decide +kernel) (by decide +kernel)
  have hlists : current.Lists shell press := ⟨["echo", "exit"], by decide +kernel⟩
  obtain ⟨hiff, -⟩ := lists_iff_streak_of_presses surroundings rfl ["shell"] hstart hreaches press
  exact ⟨hstart, hreaches, hlists, (hiff.mp hlists).2.2⟩

/-- The first press at a prompt lists names after a press at the prompt before, which was broken
off. -/
theorem first_press_lists :
    let surroundings : Surroundings := {
      environment := [("HOME", "/")]
      host := {}
      launcher := fun host _ ↦ (.ok {}, host)
      isTerminal := true }
    let shell := shell surroundings
    let first := Conversation.start
      (initialState surroundings ⟨"", "/", "$ ", .warning, "/"⟩) "$ " true
    let press : Press := { buffer := "e" }
    let broken := (first.take shell (.press press)).2
    let current := (broken.take shell .interrupt).2
    start surroundings ["shell"] = .conversing shell first ∧
    first.Reaches shell [.press press, .interrupt] current ∧ current.Lists shell press ∧
    ¬ ∃ (before : List Input) (presses : List Press),
      [.press press, .interrupt] = before ++ presses.map Input.press ∧
      ∃ earlier ∈ presses, earlier.buffer = press.buffer := by
  intro surroundings shell first press broken current
  refine ⟨start_shell_eq ⟨"", "/", "$ ", .warning, "/"⟩ (by decide +kernel), ?_,
    ⟨["echo", "exit"], by decide +kernel⟩, ?_⟩
  · have hbroken : first.Reaches shell [.press press] broken :=
      Conversation.Reaches.nil.take (by decide +kernel) (by decide +kernel)
    exact hbroken.take (by decide +kernel) (by decide +kernel)
  · rintro ⟨before, presses, hinputs, earlier, hearlier, -⟩
    rcases List.eq_nil_or_concat presses with rfl | ⟨others, last, rfl⟩
    · contradiction
    · rw [List.concat_eq_append, List.map_append, ← List.append_assoc] at hinputs
      have hsplit : [.press press] ++ [.interrupt]
          = before ++ others.map Input.press ++ [.press last] := hinputs
      obtain ⟨-, hlast⟩ := List.append_inj' hsplit rfl
      exact Input.noConfusion (List.singleton_inj.mp hlast)

end Program

end LineShell
