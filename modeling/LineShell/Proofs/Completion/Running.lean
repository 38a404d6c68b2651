import LineShell.Proofs.Command.Rendering
import LineShell.Proofs.Completion.Editing
import LineShell.Proofs.Token.Verbatim

/-!
# Running what was completed

A name that is completed is put into the line as it stands, with a space after it, while a line is
cut into tokens with backslashes, quotes and spaces in a role of their own. So the completed line
names the command that was completed only if the name can be written without quoting
(`Shell.completed_name_is_command_iff`). Directories hold other names too, and completion offers
them.
-/

namespace LineShell.Shell

/-- Where a single name fits, it is put in with a space after it. -/
theorem complete_of_single {shell : Shell} {state : State} {engine : Engine} {line name : String}
    {completion : Completion} (h : (shell.complete state engine line).1 = .ok completion)
    (hname : completion.candidates = [name]) :
    commandWord line ≠ "" ∧ (commandWord line).toList <+: name.toList ∧
      completion = .replace (commandWord line) (name ++ " ") [name] := by
  obtain ⟨hword, hcandidates⟩ : commandWord line ≠ "" ∧
      shell.candidates state (commandWord line) = .ok [name] := by
    rw [← hname]
    cases answers_of_complete h with
    | nothing => contradiction
    | bell hword hnames | list hword hnames | replace hword hnames => exact ⟨hword, hnames⟩
  rw [Engine.complete_of_names engine hword hcandidates] at h
  exact ⟨hword, begins_of_candidates hcandidates name List.mem_cons_self, (Except.ok.inj h).symm⟩

/-- **A completed name is the command exactly if it needs no quoting.** Whatever was pressed before
and wherever the name comes from: if a word without blanks is completed and a single name fits, the
line becomes the name and a space. That line gives the name as its command, without arguments and
without redirections, exactly if the name holds no backslash, no quote and no space. -/
theorem completed_name_is_command_iff (shell : Shell) (state : State) (engine : Engine)
    {word name : String} {completion : Completion}
    (hword : ∀ c ∈ word.toList, Text.isBlank c = false)
    (hcomplete : (shell.complete state engine word).1 = .ok completion)
    (hname : completion.candidates = [name]) :
    completion.apply word = name ++ " " ∧
      (Command.parse? (completion.apply word) = some ⟨name, [], {}⟩ ↔
        ∀ c ∈ name.toList, c ∉ ['\\', '"', '\'', ' ']) := by
  obtain ⟨hsome, hbegins, rfl⟩ := complete_of_single hcomplete hname
  have hne : word.toList ≠ [] := by
    intro hnil
    rw [String.toList_eq_nil_iff.mp hnil] at hsome
    exact hsome rfl
  -- A word without blanks is the first word of the line that it makes up by itself.
  have hfirst : StandsFirst [] word.toList [] := ⟨nofun, hne, hword, nofun⟩
  have hcommand : commandWord word = word := by simpa using commandWord_eq hfirst
  have happly := hfirst.replaceFirst_eq (name ++ " ").toList
  rw [List.nil_append, List.append_nil, List.nil_append, List.append_nil] at happly
  rw [hcommand] at hbegins ⊢
  rw [Completion.apply, happly, String.ofList_toList]
  have hlonger : name ≠ "" := by
    rintro rfl
    exact hne (List.prefix_nil.mp hbegins)
  refine ⟨rfl, ?_⟩
  rw [Command.parse?_eq_name_iff, tokenize_append_space_eq_self_iff]
  exact and_iff_right hlonger

/-- A name with an operator in it needs no quoting, since the first token is the command whatever it
looks like. -/
theorem completed_operator_is_command :
    let shell : Shell := { launcher := fun host _ ↦ (.ok {}, host) }
    let state : State := {
      session := { cwd := "/", searchPath := ["/bin"], home := "/" }
      host := { tree := ⟨[(["bin"], .directory), (["bin", "2>log"], .file [] true)]⟩ } }
    let completion : Completion := .replace "2" "2>log " ["2>log"]
    (∀ c ∈ "2".toList, Text.isBlank c = false) ∧
      (shell.complete state {} "2").1 = .ok completion ∧ completion.candidates = ["2>log"] ∧
      Command.parse? (completion.apply "2") = some ⟨"2>log", [], {}⟩ := by
  intro shell state completion
  have hword : ∀ c ∈ "2".toList, Text.isBlank c = false :=
    List.forall_mem_singleton.mpr (by decide)
  have hcomplete : (shell.complete state {} "2").1 = .ok completion := by decide +kernel
  have hname : ∀ c ∈ "2>log".toList, c ∉ ['\\', '"', '\'', ' '] := by
    have hall : ("2>log".toList.all fun c ↦ c ∉ ['\\', '"', '\'', ' ']) = true := by decide
    simpa only [List.all_eq_true, decide_eq_true_eq] using hall
  exact ⟨hword, hcomplete, rfl,
    (shell.completed_name_is_command_iff state {} hword hcomplete rfl).2.mpr hname⟩

/-- A program with a space in its name: it can be run, and it is the only one that fits, but the
completed line gives another command. -/
theorem completed_name_with_space_is_not_command :
    let shell : Shell := { launcher := fun host _ ↦ (.ok {}, host) }
    let state : State := {
      session := { cwd := "/", searchPath := ["/bin"], home := "/" }
      host := { tree := ⟨[(["bin"], .directory), (["bin", "my tool"], .file [] true)]⟩ } }
    let completion : Completion := .replace "my" "my tool " ["my tool"]
    shell.resolve state "my tool" = .external "/bin/my tool" ∧
      (∀ c ∈ "my".toList, Text.isBlank c = false ∧ c ∉ ['\\', '"', '\'']) ∧
      (shell.complete state {} "my").1 = .ok completion ∧ completion.candidates = ["my tool"] ∧
      Command.parse? (completion.apply "my") ≠ some ⟨"my tool", [], {}⟩ ∧
      Command.parse? (completion.apply "my") = some ⟨"my", ["tool"], {}⟩ := by
  intro shell state completion
  have hword : ∀ c ∈ "my".toList, Text.isBlank c = false ∧ c ∉ ['\\', '"', '\''] := by
    have hall : ("my".toList.all fun c ↦
        Text.isBlank c = false ∧ c ∉ ['\\', '"', '\'']) = true := by decide
    simpa only [List.all_eq_true, decide_eq_true_eq] using hall
  have hline : completion.apply "my" = "my tool " := by decide
  have hparsed : Command.parse? "my tool " = some ⟨"my", ["tool"], {}⟩ := by decide
  rw [hline, hparsed]
  exact ⟨by decide +kernel, hword, by decide +kernel, rfl, by decide, rfl⟩

end LineShell.Shell
