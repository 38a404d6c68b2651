import LineShell.Proofs.Shell.Files

/-!
# Both streams in one file

A command line may send both streams to one file, under one spelling or two, and each in its own
mode. The output is delivered stream by stream, and each delivery opens the file again in the mode
of its target. So what the file holds afterwards is two writes deep
(`Redirection.Plan.LeadsTogether.exists_deliverAll`), and the mode of the second one decides: if it
appends, the output of both streams stands in the file, that of the standard output first. If it
truncates, the first delivery is lost with whatever else the file held, even if there is nothing to
deliver for the second stream (`FileTree.holdsApart_written_iff`).

The commands that every shell knows print nothing on the standard error. With `> f 2> f` they
therefore leave an empty file, although each of the targets was emptied before the command ran and
there was nothing left to empty.
-/

namespace LineShell

open Redirection (Target Plan)

/-! ## Two writes -/

namespace FileTree

/-- Whether a content holds two blocks of bytes that do not overlap, in some order. -/
def HoldsApart (first second content : Bytes) : Prop :=
  ∃ before between after, content = before ++ first ++ between ++ second ++ after ∨
    content = before ++ second ++ between ++ first ++ after

theorem HoldsApart.length_add_length_le {first second content : Bytes}
    (h : HoldsApart first second content) : first.length + second.length ≤ content.length := by
  obtain ⟨before, between, after, rfl | rfl⟩ := h
  all_goals
    simp only [List.length_append]
    omega

/-- What is written stands at the end. -/
theorem suffix_written (mode : WriteMode) (old data : Bytes) : data <:+ written mode old data := by
  cases mode with
  | truncate => exact List.suffix_refl data
  | append => exact List.suffix_append old data

/-- **Two writes to one file.** Both blocks are there exactly if the second write appends or has
nothing to remove. -/
theorem holdsApart_written_iff {mode earlier : WriteMode} {old first second : Bytes} :
    HoldsApart first second (written mode (written earlier old first) second) ↔
      mode = .append ∨ first = [] := by
  cases mode with
  | append =>
    obtain ⟨kept, hkept⟩ := suffix_written earlier old first
    refine iff_of_true ⟨kept, [], [], Or.inl ?_⟩ (Or.inl rfl)
    rw [written, ← hkept, List.append_nil, List.append_nil]
  | truncate =>
    constructor
    · intro h
      have hlength : first.length + second.length ≤ second.length := h.length_add_length_le
      exact Or.inr (List.length_eq_zero_iff.mp (by omega))
    · rintro (hmode | rfl)
      · contradiction
      · refine ⟨[], [], [], Or.inl ?_⟩
        rw [written, List.append_nil, List.nil_append]
        rfl

/-- With nothing to write, the second write leaves the first at the end exactly if it appends or
there is nothing to remove. -/
theorem suffix_written_nil_iff {mode earlier : WriteMode} {old first : Bytes} :
    first <:+ written mode (written earlier old first) [] ↔ mode = .append ∨ first = [] := by
  cases mode with
  | append =>
    refine iff_of_true ?_ (Or.inl rfl)
    rw [written, List.append_nil]
    exact suffix_written earlier old first
  | truncate =>
    rw [written, List.suffix_nil]
    exact ⟨Or.inr, fun h ↦ h.resolve_left nofun⟩

end FileTree

/-! ## Two deliveries -/

namespace Redirection.Plan.LeadsTogether

variable {plan : Plan} {stdout stderr : Target} {cwd : String} {place : Place}
  {performed : Performed}

/-- Delivering both streams writes to the file twice, for the standard output first. -/
theorem exists_deliverAll {state : State}
    (h : plan.LeadsTogether stdout stderr cwd state.host place)
    (houtput : ∀ stream, (plan.target? stream).isSome = true →
      (performed.output stream).isSome = true) :
    ∃ after, Shell.deliverAll performed plan cwd state = .ok () after ∧
      after.host.tree.contents place =
        FileTree.written stderr.mode
          (FileTree.written stdout.mode (state.host.tree.contents place) (performed.bytes .stdout))
          (performed.bytes .stderr) := by
  have hstdout : plan.target? .stdout = some stdout := by rw [h.plan_eq]; rfl
  have hstderr : plan.target? .stderr = some stderr := by rw [h.plan_eq]; rfl
  obtain ⟨middle, hmiddle, ⟨tree, hbecomes, hhost⟩, hfirst, -⟩ := Shell.exists_deliverOutput
    (fun target htarget ↦ Option.some.inj (hstdout.symm.trans htarget) ▸ h.stdout_leadsTo)
    (houtput .stdout)
  -- The first delivery does not change where the second one goes.
  have hleads : stderr.LeadsTo cwd middle.host place := by
    rw [hhost]
    exact h.stderr_leadsTo.of_writes hbecomes
  obtain ⟨after, hafter, -, hsecond, -⟩ := Shell.exists_deliverOutput
    (fun target htarget ↦ Option.some.inj (hstderr.symm.trans htarget) ▸ hleads)
    (houtput .stderr)
  refine ⟨after, ?_, ?_⟩
  · rw [Shell.deliverAll, Action.bind_apply, hmiddle]
    exact hafter
  · rw [(hsecond stderr hstderr).contents_eq, (hfirst stdout hstdout).contents_eq]

/-- A direct command leaves targets together that lead together, wherever it goes. -/
theorem perform_of_direct {shell : Shell} {nested : String → Action CommandResult}
    {command : Command} {state : State}
    (h : command.plan.LeadsTogether stdout stderr state.session.cwd state.host place)
    (habsolute : Path.isAbsolute state.session.cwd = true) {handler : Handler}
    (hfind : shell.commands.find? command.name = some handler)
    (hdirect : (handler command.args).Direct) :
    command.plan.LeadsTogether stdout stderr state.session.cwd
      ((shell.perform nested command state.session.cwd).finalState
        (Shell.prepared command.plan state)).host place := by
  refine h.of_becomes habsolute ?_
  have htree : ((shell.perform nested command state.session.cwd).finalState
      (Shell.prepared command.plan state)).host.tree
        = (Shell.prepared command.plan state).host.tree :=
    Shell.keeps_tree_perform hfind hdirect _
  rw [htree]
  exact (Redirection.becomes_prepareTargets _ _ _).tree

end Redirection.Plan.LeadsTogether

/-! ## The whole dispatch -/

namespace Shell

variable {shell : Shell} {nested : String → Action CommandResult} {command : Command}

/-- The commands that every shell knows hand over nothing for the standard error. -/
theorem bytes_stderr_of_mem_standardCommands {entry : String × Handler}
    (hentry : entry ∈ standardCommands.entries)
    (hfind : shell.commands.find? command.name = some entry.2) {cwd : String} {state after : State}
    {performed : Performed}
    (hperform : shell.perform nested command cwd state = .ok performed after) :
    performed.bytes .stderr = [] := by
  obtain ⟨result, left, hrun, hresult⟩ := exists_perform_of_handler nested hfind cwd state
  have hsilent : result.stderr = "" := (Builtin.replies_of_mem_standardCommands hentry
    command.args).of_runProcedure (fun _ ↦ rfl) hrun
  rw [hresult] at hperform
  cases hperform
  change Utf8.encode result.stderr = []
  rw [hsilent]
  rfl

/-- **Both streams in one file.** A command whose targets can be prepared and lead to one regular
file when it is done has a result, and the file holds what two writes make of it, that of the
standard output and then that of the standard error. Both outputs are in the file, apart from each
other, exactly if the standard error is appended or the standard output is empty; and a command that
prints nothing on the standard error, such as those that every shell knows, leaves its output at the
end of the file in the same cases only. -/
theorem dispatch_keeps_both_iff (shell : Shell) (command : Command) (state : State) (place : Place)
    (stdout stderr : Target)
    (hprepare : (command.plan.prepare state.session.cwd state.host).1 = .ok ())
    (hlauncher : ∀ path, shell.resolve state command.name = .external path →
      (launchFor command path state.session.cwd).AnsweredBy
        (shell.launcher (prepared command.plan state).host
          (launchFor command path state.session.cwd)).1)
    (htogether : command.plan.LeadsTogether stdout stderr state.session.cwd
      ((shell.perform (shell.execWithin maxNesting) command state.session.cwd).finalState
        (prepared command.plan state)).host place) :
    ∃ performed middle after,
      shell.perform (shell.execWithin maxNesting) command state.session.cwd
        (prepared command.plan state) = .ok performed middle ∧
      shell.HandsOver command state.session.cwd (prepared command.plan state) performed ∧
      shell.dispatch command state = .ok performed.result after ∧
      after.host.tree.contents place =
        FileTree.written stderr.mode
          (FileTree.written stdout.mode (middle.host.tree.contents place)
            (performed.bytes .stdout))
          (performed.bytes .stderr) ∧
      (FileTree.HoldsApart (performed.bytes .stdout) (performed.bytes .stderr)
          (after.host.tree.contents place) ↔
        stderr.mode = .append ∨ performed.bytes .stdout = []) ∧
      (performed.bytes .stderr = [] →
        (performed.bytes .stdout <:+ after.host.tree.contents place ↔
          stderr.mode = .append ∨ performed.bytes .stdout = [])) ∧
      ∀ entry ∈ standardCommands.entries,
        shell.commands.find? command.name = some entry.2 → performed.bytes .stderr = [] := by
  have hresolve := shell.resolve_prepared command.plan state command.name
  obtain ⟨performed, middle, hperform, houtput, hpresent⟩ : ∃ performed middle,
      shell.perform (shell.execWithin maxNesting) command state.session.cwd
        (prepared command.plan state) = .ok performed middle ∧ _ ∧ _ :=
    exists_perform_eq_ok fun path hpath ↦ hlauncher path (hresolve.symm.trans hpath)
  rw [Action.finalState_of_ok hperform] at htogether
  obtain ⟨after, hdeliver, hcontents⟩ := htogether.exists_deliverAll hpresent
  refine ⟨performed, middle, after, hperform, houtput,
    dispatchWith_of_perform _ hprepare hperform hdeliver, hcontents, ?_, ?_, ?_⟩
  · rw [hcontents]
    exact FileTree.holdsApart_written_iff
  · intro hsilent
    rw [hcontents, hsilent]
    exact FileTree.suffix_written_nil_iff
  · exact fun entry hentry hfind ↦ bytes_stderr_of_mem_standardCommands hentry hfind hperform

/-- A standard error that is appended leaves the output in the file, whatever its path is. -/
theorem appended_stderr_keeps_output :
    let shell : Shell := { launcher := fun host _ ↦ (.ok {}, host) }
    let state : State := {
      session := { cwd := "/w", home := "/" }
      host := { tree := ⟨[(["w"], .directory)]⟩ } }
    let command : Command :=
      ⟨"echo", ["hi"], { stdout := some ⟨"f", .truncate⟩, stderr := some ⟨"../w/f", .append⟩ }⟩
    let performing := shell.perform (shell.execWithin maxNesting) command state.session.cwd
    (command.plan.prepare state.session.cwd state.host).1 = .ok () ∧
    command.plan.LeadsTogether ⟨"f", .truncate⟩ ⟨"../w/f", .append⟩ state.session.cwd
      (performing.finalState (prepared command.plan state)).host ["w", "f"] ∧
    ∃ after, shell.dispatch command state = .ok { stdout := "hi\n" } after ∧
      Utf8.encode "hi\n" <:+ after.host.tree.contents ["w", "f"] := by
  intro shell state command performing
  have hplan : command.plan.LeadsTogether ⟨"f", .truncate⟩ ⟨"../w/f", .append⟩ state.session.cwd
      state.host ["w", "f"] := {
    plan_eq := rfl
    stdout_leadsTo := {
      hasNul_eq := by decide +kernel
      locate_eq := FileTree.locate_eq_ok_iff.mpr (by decide +kernel)
      regularAt := rfl
      node?_ne_program := fun hmode ↦ WriteMode.noConfusion hmode }
    stderr_leadsTo := {
      hasNul_eq := by decide +kernel
      locate_eq := FileTree.locate_eq_ok_iff.mpr (by decide +kernel)
      regularAt := rfl
      node?_ne_program := fun _ name ↦ (Option.some_ne_none (Node.program name)).symm } }
  have hresolve : shell.resolve state command.name = .builtin := by decide +kernel
  have hentry : ("echo", Builtin.echo) ∈ standardCommands.entries := by
    simp [standardCommands]
  have hfind : shell.commands.find? command.name = some Builtin.echo := rfl
  have htogether : command.plan.LeadsTogether ⟨"f", .truncate⟩ ⟨"../w/f", .append⟩ state.session.cwd
      (performing.finalState (prepared command.plan state)).host ["w", "f"] :=
    hplan.perform_of_direct (by decide) hfind
      (Builtin.direct_of_mem_standardCommands hentry command.args)
  obtain ⟨performed, middle, after, hperform, -, hdispatch, -, -, hsuffix, hsilent⟩ :=
    shell.dispatch_keeps_both_iff command state ["w", "f"] _ _ hplan.prepare_eq_ok
      (fun path hpath ↦ Resolution.noConfusion (hresolve.symm.trans hpath)) htogether
  have hvalue : performing.value? (prepared command.plan state) = some performed :=
    Action.value?_of_ok hperform
  have hresult : performed.result = { stdout := "hi\n" } := by
    have hcomputed : (performing.value? (prepared command.plan state)).map Performed.result
        = some { stdout := "hi\n" } := by decide +kernel
    rw [hvalue] at hcomputed
    exact Option.some.inj hcomputed
  have hbytes : performed.bytes .stdout = Utf8.encode "hi\n" := by
    have hcomputed : (performing.value? (prepared command.plan state)).map (·.bytes .stdout)
        = some (Utf8.encode "hi\n") := by decide +kernel
    rw [hvalue] at hcomputed
    exact Option.some.inj hcomputed
  rw [hresult] at hdispatch
  rw [hbytes] at hsuffix
  exact ⟨hplan.prepare_eq_ok, htogether, after, hdispatch,
    (hsuffix (hsilent _ hentry hfind)).mpr (Or.inl rfl)⟩

/-- A standard error that is not appended takes the output out of the file again, although there is
nothing to write for it. -/
theorem truncated_stderr_loses_output :
    let shell : Shell := { launcher := fun host _ ↦ (.ok {}, host) }
    let state : State := {
      session := { cwd := "/w", home := "/" }
      host := { tree := ⟨[(["w"], .directory)]⟩ } }
    let after := (shell.exec "echo hi > f 2> f").finalState state
    Command.parse? "echo hi > f 2> f" =
      some ⟨"echo", ["hi"], { stdout := some ⟨"f", .truncate⟩, stderr := some ⟨"f", .truncate⟩ }⟩ ∧
    (shell.exec "echo hi > f 2> f").value? state = some { stdout := "hi\n" } ∧
    after.host.tree.node? ["w", "f"] = some (.file [] false) ∧
    ¬ FileTree.HoldsApart (Utf8.encode "hi\n") [] (after.host.tree.contents ["w", "f"]) := by
  intro shell state after
  have hnode : after.host.tree.node? ["w", "f"] = some (.file [] false) := by decide +kernel
  refine ⟨by decide +kernel, by decide +kernel, hnode, fun h ↦ ?_⟩
  have hlength := h.length_add_length_le
  rw [FileTree.contents, hnode] at hlength
  exact absurd hlength (by decide +kernel)

end Shell

end LineShell
