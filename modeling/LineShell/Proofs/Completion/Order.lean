import LineShell.Proofs.Completion.Proposals
import Mathlib.Data.List.Sort
import Mathlib.Data.String.Basic

/-!
# Proposals in order

The names that are proposed for a beginning come in increasing order, each once. Such a list is
known from its members alone (`Names.eq_ofList_iff`), and whether a name is proposed is a question
about the name, the commands of the shell and the directories that can be listed
(`Shell.Proposes`). So all that matters about a search path is which of its entries can be listed,
not how they are arranged or repeated, and what is proposed for a longer beginning is what is left
of the proposals for a shorter one (`Shell.candidates_in_order`).
-/

namespace LineShell

/-! ## Lists in order -/

namespace Names

theorem pairwise_insert {names : List String} (h : names.Pairwise (· < ·)) (name : String) :
    (insert name names).Pairwise (· < ·) := by
  induction h with
  | nil => exact List.pairwise_singleton _ _
  | @cons first rest hfirst hrest ih =>
    rw [insert]
    split_ifs with hless hsame
    · refine List.pairwise_cons.mpr ⟨?_, List.pairwise_cons.mpr ⟨hfirst, hrest⟩⟩
      exact List.forall_mem_cons.mpr ⟨hless, fun other hother ↦ hless.trans (hfirst other hother)⟩
    · exact List.pairwise_cons.mpr ⟨hfirst, hrest⟩
    · refine List.pairwise_cons.mpr ⟨fun other hother ↦ ?_, ih⟩
      rcases mem_insert.mp hother with rfl | hother
      · exact lt_of_le_of_ne (not_lt.mp hless) (Ne.symm hsame)
      · exact hfirst other hother

theorem pairwise_ofList (names : List String) : (ofList names).Pairwise (· < ·) := by
  induction names with
  | nil => exact List.Pairwise.nil
  | cons name names ih => exact pairwise_insert ih name

/-- **Lists in order.** A list in order is known from its members. -/
theorem eq_ofList_iff {names others : List String} :
    names = ofList others ↔
      names.Pairwise (· < ·) ∧ ∀ name, name ∈ names ↔ name ∈ others := by
  constructor
  · rintro rfl
    exact ⟨pairwise_ofList others, fun name ↦ mem_ofList⟩
  · rintro ⟨hnames, hmem⟩
    refine hnames.eq_of_mem_iff (pairwise_ofList others) fun name ↦ ?_
    rw [hmem, mem_ofList]

end Names

/-! ## Names and directories -/

/-- Whether the directory that an entry of a search path means can be listed. -/
def State.CanList (state : State) (entry : String) : Prop :=
  ∃ listed, state.host.list (state.session.directoryOf entry) = .ok listed

/-- The same state with another search path. -/
def State.withSearchPath (state : State) (searchPath : List String) : State :=
  { state with session := { state.session with searchPath } }

namespace Shell

/-- Whether a name begins with a text and is that of a command or of an entry of a directory on the
search path that can be listed. -/
def Proposes (shell : Shell) (state : State) (start name : String) : Prop :=
  start.toList <+: name.toList ∧ (name ∈ shell.commands.names ∨
    ∃ entry ∈ state.session.searchPath, ∃ listed,
      state.host.list (state.session.directoryOf entry) = .ok listed ∧ name ∈ listed)

variable (shell : Shell) (state : State) {start : String} {names : List String}

/-- The proposals are the names to propose, in order. -/
theorem candidates_eq_ok_iff_proposes (hcwd : Path.hasNul state.session.cwd = false)
    (hsearch : ∀ entry ∈ state.session.searchPath, Path.hasNul entry = false) :
    shell.candidates state start = .ok names ↔
      names.Pairwise (· < ·) ∧ ∀ name, name ∈ names ↔ shell.Proposes state start name := by
  obtain ⟨others, hothers, hmem⟩ := shell.exists_candidates_eq_ok state hcwd hsearch start
  obtain ⟨entries, -, hlist⟩ := candidates_eq_ok_iff.mp hothers
  have hproposes : ∀ name, name ∈ others ↔ shell.Proposes state start name := by
    intro name
    rw [hmem, Proposes, Session.searchDirs_eq]
    simp only [List.mem_map, exists_exists_and_eq_and]
  -- The proposals are put in order where they are made, so only their members are left to compare.
  rw [hothers, Except.ok.injEq, ← hlist, eq_comm, Names.eq_ofList_iff]
  refine and_congr_right fun _ ↦ forall_congr' fun name ↦ ?_
  rw [← hproposes, ← hlist, Names.mem_ofList]

variable {shell state}

/-- Only the entries of a search path that can be listed matter. -/
theorem proposes_withSearchPath {searchPath : List String}
    (h : ∀ entry, state.CanList entry →
      (entry ∈ searchPath ↔ entry ∈ state.session.searchPath)) {name : String} :
    shell.Proposes (state.withSearchPath searchPath) start name
      ↔ shell.Proposes state start name := by
  refine and_congr_right fun _ ↦ or_congr_right ?_
  constructor
  · rintro ⟨entry, hentry, listed, hlisted, hname⟩
    exact ⟨entry, (h entry ⟨listed, hlisted⟩).mp hentry, listed, hlisted, hname⟩
  · rintro ⟨entry, hentry, listed, hlisted, hname⟩
    exact ⟨entry, (h entry ⟨listed, hlisted⟩).mpr hentry, listed, hlisted, hname⟩

/-- What is proposed for a longer beginning is what is left for it of the proposals. -/
theorem proposes_append (more name : String) :
    shell.Proposes state (start ++ more) name ↔
      shell.Proposes state start name ∧ (start ++ more).toList <+: name.toList := by
  have hstart : (start ++ more).toList <+: name.toList → start.toList <+: name.toList := by
    rw [String.toList_append]
    exact (List.prefix_append _ _).trans
  constructor
  · rintro ⟨hlonger, hnamed⟩
    exact ⟨⟨hstart hlonger, hnamed⟩, hlonger⟩
  · rintro ⟨⟨-, hnamed⟩, hlonger⟩
    exact ⟨hlonger, hnamed⟩

/-- **Proposals in order.** Where no path holds a NUL character, the proposals for a beginning are
in strictly increasing order of code points, and they are the names that begin so and are those of
commands or of entries of directories that can be listed. They are the same for every search path
on which the entries that can be listed are the same ones, in whatever order, however often, and
between whatever others. Those for a longer beginning are the ones among them that begin so. -/
theorem candidates_in_order (shell : Shell) (state : State)
    (hcwd : Path.hasNul state.session.cwd = false)
    (hsearch : ∀ entry ∈ state.session.searchPath, Path.hasNul entry = false) (start : String) :
    ∃ names, shell.candidates state start = .ok names ∧
      names.Pairwise (· < ·) ∧ (∀ name, name ∈ names ↔ shell.Proposes state start name) ∧
      (∀ searchPath : List String, (∀ entry ∈ searchPath, Path.hasNul entry = false) →
        (∀ entry, state.CanList entry →
          (entry ∈ searchPath ↔ entry ∈ state.session.searchPath)) →
        shell.candidates (state.withSearchPath searchPath) start = .ok names) ∧
      ∀ more, shell.candidates state (start ++ more)
        = .ok (names.filter fun name ↦ (start ++ more).toList.isPrefixOf name.toList) := by
  obtain ⟨names, hnames, -⟩ := shell.exists_candidates_eq_ok state hcwd hsearch start
  obtain ⟨horder, hmem⟩ := (shell.candidates_eq_ok_iff_proposes state hcwd hsearch).mp hnames
  refine ⟨names, hnames, horder, hmem, fun searchPath hplain hlisted ↦ ?_, fun more ↦ ?_⟩
  · refine (shell.candidates_eq_ok_iff_proposes (state.withSearchPath searchPath) hcwd hplain).mpr
      ⟨horder, fun name ↦ ?_⟩
    rw [hmem, proposes_withSearchPath hlisted]
  · refine (shell.candidates_eq_ok_iff_proposes state hcwd hsearch).mpr
      ⟨horder.filter _, fun name ↦ ?_⟩
    rw [List.mem_filter, hmem, proposes_append, List.isPrefixOf_iff_prefix]

/-- A search path that is turned around, with an entry repeated and other entries that cannot be
listed. -/
theorem candidates_on_rearranged_path :
    let shell : Shell := { launcher := fun host _ ↦ (.ok {}, host) }
    let state : State := {
      session := { cwd := "/w", searchPath := ["bin", "gone", "/opt"], home := "/" }
      host := { tree := ⟨[(["w"], .directory), (["w", "bin"], .directory),
        (["w", "bin", "ed"], .file [] true), (["w", "bin", "edit"], .file [] false),
        (["opt"], .directory), (["opt", "edit"], .link "ed"),
        (["opt", "notes"], .file [] false)]⟩ } }
    let searchPath := ["/opt", "bin", "/opt/notes", "nowhere", "bin"]
    let names := ["echo", "ed", "edit", "exit"]
    Path.hasNul state.session.cwd = false ∧
    (∀ entry ∈ state.session.searchPath, Path.hasNul entry = false) ∧
    (∀ entry ∈ searchPath, Path.hasNul entry = false) ∧
    shell.candidates state "e" = .ok names ∧
    shell.candidates (state.withSearchPath searchPath) "e" = .ok names ∧
    shell.candidates state "ed" = .ok ["ed", "edit"] := by
  intro shell state searchPath names
  have hcwd : Path.hasNul state.session.cwd = false := by decide
  have hsearch : ∀ entry ∈ state.session.searchPath, Path.hasNul entry = false := by decide
  have hplain : ∀ entry ∈ searchPath, Path.hasNul entry = false := by decide
  have hunlisted : ∀ entry ∈ ["gone", "/opt/notes", "nowhere"], ¬ state.CanList entry := by
    have hfails : ∀ entry ∈ ["gone", "/opt/notes", "nowhere"],
        (state.host.list (state.session.directoryOf entry)).isOk = false := by decide +kernel
    rintro entry hentry ⟨listed, hlisted⟩
    have hok := hfails entry hentry
    rw [hlisted] at hok
    contradiction
  have hlisted : ∀ entry, state.CanList entry →
      (entry ∈ searchPath ↔ entry ∈ state.session.searchPath) := by
    intro entry hentry
    have hother : entry ∉ ["gone", "/opt/notes", "nowhere"] := fun h ↦ hunlisted entry h hentry
    simp only [List.mem_cons, List.not_mem_nil, or_false, not_or] at hother
    simp [searchPath, state, hother, or_comm]
  have hnames : shell.candidates state "e" = .ok names := by decide +kernel
  obtain ⟨others, hothers, -, -, hrearranged, hlonger⟩ :=
    shell.candidates_in_order state hcwd hsearch "e"
  obtain rfl : names = others := Except.ok.inj (hnames.symm.trans hothers)
  refine ⟨hcwd, hsearch, hplain, hnames, hrearranged searchPath hplain hlisted, ?_⟩
  exact (hlonger "d").trans (by decide)

end Shell

end LineShell
