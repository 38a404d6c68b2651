import LineShell.Proofs.Completion.Beginnings
import LineShell.Proofs.Delivery
import LineShell.Proofs.FileTree.Walking
import LineShell.Shell.Exec

/-!
# What completion proposes

A shell goes through its search path in two ways. To run a program it asks of one directory after
the other whether a path into it leads to a program, and stops at the first that does. To complete a
name it lists all the directories, and skips those that cannot be listed. The first way follows
links, counts how many and minds how long a path is, and the second one looks at the entries of a
directory without asking what they are.

Still a program that is found is proposed (`Shell.mem_candidates_of_found`), be its name that of a
link, if one of the directories through which its name leads to a program can be listed. That is not
so by itself. A directory may be one that can be searched but not listed, and if there is no other,
the program runs but is never proposed (`Shell.found_programs_not_proposed`).
-/

namespace LineShell

/-! ## Listed directories -/

namespace Host

theorem list_eq_mapError {directory : String} (h : Path.hasNul directory = false) (host : Host) :
    host.list directory = (host.tree.list host.cwd directory).mapError .file := by
  rw [list, open?, h, if_neg Bool.false_ne_true]

/-- **A program that a directory leads to is listed in it**, if the directory is listed. -/
theorem LeadsToProgram.mem_of_list {host : Host} {directory name : String} {names : List String}
    (h : host.LeadsToProgram (Path.join directory name)) (hhere : host.tree.Supports host.cwd)
    (hnul : Path.hasNul directory = false) (hdirectory : directory ≠ "")
    (hname : '/' ∉ name.toList) (hlist : host.list directory = .ok names) : name ∈ names := by
  obtain ⟨-, place, node, hplace, hnode, hfile, -⟩ := h
  have hother : node.isDirectory = false := by
    cases node <;> first | rfl | contradiction
  obtain ⟨listed, hmem, hlisted | hdenied⟩ :=
    FileTree.exists_list_eq_of_locate_join hhere hdirectory hname hplace hnode hother
  · rw [list_eq_mapError hnul, hlisted] at hlist
    rwa [← Except.ok.inj hlist]
  · rw [list_eq_mapError hnul, hdenied] at hlist
    contradiction

end Host

/-- The entries of directories are those of the ones that can be listed. -/
theorem exists_entriesOf_eq_ok (host : Host) {directories : List String}
    (h : ∀ directory ∈ directories, Path.hasNul directory = false) :
    ∃ entries, entriesOf host directories = .ok entries ∧
      ∀ name, name ∈ entries ↔
        ∃ directory ∈ directories, ∃ names, host.list directory = .ok names ∧ name ∈ names := by
  induction directories with
  | nil => exact ⟨[], rfl, by simp⟩
  | cons directory rest ih =>
    obtain ⟨entries, hentries, hmem⟩ :=
      ih fun other hother ↦ h other (List.mem_cons_of_mem directory hother)
    have hnul : Path.hasNul directory = false := h directory List.mem_cons_self
    rw [entriesOf]
    cases hlist : host.list directory with
    | ok names =>
      refine ⟨names ++ entries, by rw [hentries]; rfl, fun name ↦ ?_⟩
      rw [List.mem_append, hmem, List.exists_mem_cons_iff, hlist]
      simp
    | error e =>
      cases e with
      | file error =>
        refine ⟨entries, hentries, fun name ↦ ?_⟩
        rw [hmem, List.exists_mem_cons_iff, hlist]
        simp
      | hasNul =>
        rw [Host.list_eq_mapError hnul] at hlist
        cases hsystem : host.tree.list host.cwd directory with
        | ok names =>
          rw [hsystem] at hlist
          contradiction
        | error error =>
          rw [hsystem] at hlist
          exact absurd (Except.error.inj hlist) PathError.noConfusion

/-! ## Proposals -/

/-- Whether a name leads to a program through a directory of the search path that can be listed. -/
def State.ShowsProgram (state : State) (name : String) : Prop :=
  ∃ directory ∈ state.session.searchDirs, state.host.LeadsToProgram (Path.join directory name) ∧
    ∃ names, state.host.list directory = .ok names

namespace Shell

theorem candidates_eq_ok_iff {shell : Shell} {state : State} {start : String}
    {names : List String} :
    shell.candidates state start = .ok names ↔
      ∃ entries, entriesOf state.host state.session.searchDirs = .ok entries ∧
        Names.ofList ((shell.commands.names ++ entries).filter (fits start)) = names := by
  rw [candidates, LineShell.candidates]
  cases entriesOf state.host state.session.searchDirs with
  | error fault => simp [Except.map]
  | ok entries => simp [Except.map]

/-- The names that fit begin with what they fit. -/
theorem begins_of_candidates {shell : Shell} {state : State} {start : String}
    {names : List String} (h : shell.candidates state start = .ok names) :
    ∀ name ∈ names, start.toList <+: name.toList := by
  obtain ⟨entries, -, rfl⟩ := candidates_eq_ok_iff.mp h
  intro name hname
  rw [Names.mem_ofList, List.mem_filter] at hname
  exact fits_iff.mp hname.2

variable (shell : Shell) (state : State)

/-- **What is proposed.** Where no path holds a NUL character, there are proposals, and they are the
commands of the shell and the entries of the directories on the search path that begin alike. -/
theorem exists_candidates_eq_ok (hcwd : Path.hasNul state.session.cwd = false)
    (hsearch : ∀ entry ∈ state.session.searchPath, Path.hasNul entry = false) (start : String) :
    ∃ names, shell.candidates state start = .ok names ∧
      ∀ name, name ∈ names ↔ start.toList <+: name.toList ∧
        (name ∈ shell.commands.names ∨ ∃ directory ∈ state.session.searchDirs, ∃ listed,
          state.host.list directory = .ok listed ∧ name ∈ listed) := by
  obtain ⟨entries, hentries, hmem⟩ := exists_entriesOf_eq_ok state.host
    fun directory hdirectory ↦ Session.hasNul_of_mem_searchDirs hcwd hsearch hdirectory
  refine ⟨_, candidates_eq_ok_iff.mpr ⟨entries, hentries, rfl⟩, fun name ↦ ?_⟩
  rw [Names.mem_ofList, List.mem_filter, List.mem_append, fits_iff, hmem, and_comm]

/-- **Completion proposes what can be run.** Every name without a slash that stands for a command of
the shell or for a program on the search path is proposed for everything it begins with, in whatever
order and however often, absolute, relative or empty, the directories are given, and whatever links
lead to them. Of a program it is asked that one of the directories through which its name leads to a
program can be listed. The process works, as processes do, in a place above which there are
directories. -/
theorem mem_candidates_of_found {name start : String}
    (hcwd : Path.hasNul state.session.cwd = false)
    (hsearch : ∀ entry ∈ state.session.searchPath, Path.hasNul entry = false)
    (hhere : state.host.tree.Supports state.host.cwd) (hname : '/' ∉ name.toList)
    (hfound : (shell.resolve state name).found = true)
    (hshows : ∀ path, shell.resolve state name = .external path → state.ShowsProgram name)
    (hstart : start.toList <+: name.toList) :
    ∃ names, shell.candidates state start = .ok names ∧ name ∈ names := by
  obtain ⟨names, hnames, hmem⟩ := shell.exists_candidates_eq_ok state hcwd hsearch start
  refine ⟨names, hnames, (hmem name).mpr ⟨hstart, ?_⟩⟩
  cases hmeans : shell.resolve state name with
  | builtin =>
    rw [resolve, resolveName] at hmeans
    split at hmeans
    case isTrue hcommand => exact Or.inl (CommandTable.contains_iff.mp hcommand)
    case isFalse => split at hmeans <;> contradiction
  | external path =>
    -- Where in the search path the program was found is of no matter.
    obtain ⟨directory, hdirectory, hprogram, listed, hlisted⟩ := hshows path hmeans
    have hentry : name ∈ listed := hprogram.mem_of_list hhere
      (Session.hasNul_of_mem_searchDirs hcwd hsearch hdirectory)
      (Session.ne_empty_of_mem_searchDirs hdirectory) hname hlisted
    exact Or.inr ⟨directory, hdirectory, listed, hlisted, hentry⟩
  | notFound =>
    rw [hmeans] at hfound
    contradiction

/-- A program behind two links, in a directory that is named relative to where the process works. On
the way it is found in a directory that cannot be listed. -/
theorem linked_program_is_proposed :
    let shell : Shell := { launcher := fun host _ ↦ (.ok {}, host) }
    let state : State := {
      session := { cwd := "", searchPath := ["gone", "", "/safe", "tools/", "tools/"], home := "/" }
      host := {
        cwd := ["w"]
        tree := ⟨[(["w"], .directory), (["w", "tools"], .link "../opt"), (["opt"], .directory),
          (["opt", "edit"], .link "ed-1.2"), (["opt", "ed-1.2"], .file [] true),
          (["safe"], .directory { list := false }), (["safe", "edit"], .file [] true)]⟩ } }
    Path.hasNul state.session.cwd = false ∧
    (∀ entry ∈ state.session.searchPath, Path.hasNul entry = false) ∧
    state.host.tree.Supports state.host.cwd ∧
    shell.resolve state "edit" = .external "/safe/edit" ∧ state.ShowsProgram "edit" ∧
    ∃ names, shell.candidates state "e" = .ok names ∧ "edit" ∈ names := by
  intro shell state
  have hcwd : Path.hasNul state.session.cwd = false := by decide
  have hsearch : ∀ entry ∈ state.session.searchPath, Path.hasNul entry = false := by decide
  have hhere : state.host.tree.Supports state.host.cwd := by
    have hroot : state.host.tree.Supports [] := .nil _
    exact hroot.append_singleton ⟨{}, rfl⟩ "w"
  have hresolve : shell.resolve state "edit" = .external "/safe/edit" := by decide +kernel
  have hfound : (shell.resolve state "edit").found = true := by rw [hresolve]; rfl
  have hprogram : state.host.LeadsToProgram (Path.join "tools" "edit") :=
    Host.canRun_iff.mp (by decide +kernel)
  have hshows : state.ShowsProgram "edit" :=
    ⟨"tools", by decide +kernel, hprogram, ["edit", "ed-1.2"], by decide +kernel⟩
  exact ⟨hcwd, hsearch, hhere, hresolve, hshows, shell.mem_candidates_of_found state hcwd hsearch
    hhere (by decide) hfound (fun _ _ ↦ hshows) (by decide)⟩

/-- A program in the only directory on the search path, which may be searched but not listed: its
name stands for it, and it is not proposed. A program in a directory that can be listed is proposed,
but if its name begins with a blank, not to someone who types the name: what is completed is the
first word of the line, and a word has no blanks. -/
theorem found_programs_not_proposed :
    let shell : Shell := { launcher := fun host _ ↦ (.ok {}, host) }
    let state : State := {
      session := { cwd := "/", searchPath := ["/bin"], home := "/" }
      host := { tree := ⟨[(["bin"], .directory { list := false }),
        (["bin", "ed"], .file [] true)]⟩ } }
    let listable : State := {
      session := { cwd := "/", searchPath := ["/bin"], home := "/" }
      host := { tree := ⟨[(["bin"], .directory), (["bin", " tool"], .file [] true)]⟩ } }
    Path.hasNul state.session.cwd = false ∧
    (∀ entry ∈ state.session.searchPath, Path.hasNul entry = false) ∧
    state.host.tree.Supports state.host.cwd ∧ '/' ∉ "ed".toList ∧
    shell.resolve state "ed" = .external "/bin/ed" ∧ "e".toList <+: "ed".toList ∧
    shell.candidates state "e" = .ok ["echo", "exit"] ∧
    (¬ ∃ names, shell.candidates state "e" = .ok names ∧ "ed" ∈ names) ∧
    shell.resolve listable " tool" = .external "/bin/ tool" ∧
    shell.candidates listable " to" = .ok [" tool"] ∧
    (shell.complete listable {} " to").1 = .ok (.bell "to" []) := by
  intro shell state listable
  have hcandidates : shell.candidates state "e" = .ok ["echo", "exit"] := by decide +kernel
  refine ⟨by decide, by decide, .nil _, by decide, by decide +kernel, by decide, hcandidates, ?_,
    by decide +kernel, by decide +kernel, by decide +kernel⟩
  rintro ⟨names, hnames, hmem⟩
  obtain rfl := Except.ok.inj (hcandidates.symm.trans hnames)
  contradiction

end Shell

end LineShell
