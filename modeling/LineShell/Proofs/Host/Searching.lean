import LineShell.Proofs.Delivery
import LineShell.Proofs.Path.Normalizing
import LineShell.Settings

/-!
# Searching for programs

A search path is a text whose entries stand between colons, and each entry means a directory. What
a name without a slash leads to is the program of that name in the first directory that has one;
everything before it, whatever may be there under that name, is passed over
(`findExecutable_searches_in_order`).

An entry without text and the entry `.` mean the same directory, so the replacement of the one by
the other that splitting makes cannot be seen in what is found. It can be seen in a path without
text: as a list of entries that would be one entry without text, but it has none at all.
-/

namespace LineShell

/-! ## The entries of a search path -/

/-- Whether a search path is written with such entries: none of them holds a colon, and with colons
between them they are the path. A path without text is not written with one entry without text. -/
structure HasEntries (path : String) (entries : List String) : Prop where
  intercalate_eq : ":".intercalate entries = path
  notMem_colon : ∀ entry ∈ entries, ':' ∉ entry.toList
  ne_singleton : entries ≠ [""]

namespace HasEntries

variable {path : String} {entries : List String}

theorem eq_nil (h : HasEntries "" entries) : entries = [] := by
  have hchars := congrArg String.toList h.intercalate_eq
  rw [String.toList_intercalate] at hchars
  match entries, h.ne_singleton with
  | [], _ => rfl
  | [entry], hne =>
    rw [List.map_singleton, List.intercalate_singleton] at hchars
    exact absurd (congrArg (fun text ↦ [text]) (String.toList_inj.mp hchars)) hne
  | _ :: _ :: _, _ => simp at hchars

theorem eq_of_ne_empty (h : HasEntries path entries) (hpath : path ≠ "") :
    entries = (Path.split ':' path.toList).map String.ofList := by
  obtain ⟨rfl, hcolon, -⟩ := h
  have hne : entries.map String.toList ≠ [] := by
    rw [ne_eq, List.map_eq_nil_iff]
    rintro rfl
    exact hpath rfl
  have hplain : ∀ part ∈ entries.map String.toList, ':' ∉ part := by
    rw [List.forall_mem_map]
    exact hcolon
  rw [String.toList_intercalate]
  change _ = (Path.split ':' ([':'].intercalate _)).map _
  rw [Path.split_intercalate hne hplain, List.map_map]
  simp

theorem unique {others : List String} (h : HasEntries path entries)
    (h' : HasEntries path others) : others = entries := by
  by_cases hpath : path = ""
  · subst hpath
    rw [h.eq_nil, h'.eq_nil]
  · rw [h.eq_of_ne_empty hpath, h'.eq_of_ne_empty hpath]

/-- What splitting gives: the entries, with a dot for each one without text. -/
theorem splitSearchPath_eq (h : HasEntries path entries) :
    splitSearchPath path = entries.map fun entry ↦ if entry = "" then "." else entry := by
  rw [splitSearchPath]
  split_ifs with hpath
  · obtain rfl := String.isEmpty_iff.mp hpath
    rw [h.eq_nil, List.map_nil]
  · rw [h.eq_of_ne_empty (mt String.isEmpty_iff.mpr hpath), List.map_map]
    simp

end HasEntries

/-- Every search path is written with some entries. -/
theorem exists_hasEntries (path : String) : ∃ entries, HasEntries path entries := by
  by_cases hpath : path = ""
  · exact ⟨[], hpath.symm, nofun, nofun⟩
  · have hjoined : ":".intercalate ((Path.split ':' path.toList).map String.ofList) = path := by
      rw [← String.toList_inj, String.toList_intercalate, List.map_map]
      simpa [Function.comp_def] using Path.intercalate_split ':' path.toList
    refine ⟨_, hjoined, ?_, fun hsingle ↦ ?_⟩
    · rw [List.forall_mem_map]
      intro piece hpiece
      rw [String.toList_ofList]
      exact Path.notMem_of_mem_split hpiece
    · rw [hsingle] at hjoined
      exact hpath hjoined.symm

/-- The directories of a session, read off the search path as it is written. -/
theorem Session.searchDirs_of_hasEntries {session : Session} {path : String} {entries : List String}
    (hsearch : session.searchPath = splitSearchPath path) (h : HasEntries path entries) :
    session.searchDirs = entries.map session.directoryOf := by
  rw [searchDirs_eq, hsearch, h.splitSearchPath_eq, List.map_map]
  refine List.map_congr_left fun entry _ ↦ ?_
  rw [Function.comp_apply]
  split_ifs with hentry
  · rw [hentry, directoryOf_dot]
  · rfl

/-! ## What is found -/

variable {host : Host} {session : Session} {name : String}

theorem findExecutable_of_slash (h : '/' ∈ name.toList) :
    findExecutable host session name =
      if host.canRun (session.resolvePath name) then some (session.resolvePath name) else none := by
  rw [findExecutable, if_pos (by simpa using h)]

/-- The first of the directories counts through which the name leads to a program. -/
theorem findExecutable_eq_some_iff {entries : List String} (h : '/' ∉ name.toList)
    (hentries : session.searchDirs = entries.map session.directoryOf) {found : String} :
    findExecutable host session name = some found ↔ ∃ earlier entry later,
      entries = earlier ++ entry :: later ∧ found = Path.join (session.directoryOf entry) name ∧
        host.LeadsToProgram found ∧
        ∀ other ∈ earlier, ¬ host.LeadsToProgram (Path.join (session.directoryOf other) name) := by
  rw [findExecutable, if_neg (by simpa using h), hentries, List.map_map, List.find?_map,
    Option.map_eq_some_iff]
  simp only [List.find?_eq_some_iff_append, Function.comp_apply, Bool.not_eq_true',
    ← Bool.not_eq_true, Host.canRun_iff]
  constructor
  · rintro ⟨entry, ⟨hruns, earlier, later, rfl, hearlier⟩, rfl⟩
    exact ⟨earlier, entry, later, rfl, rfl, hruns, hearlier⟩
  · rintro ⟨earlier, entry, later, rfl, rfl, hruns, hearlier⟩
    exact ⟨entry, ⟨hruns, earlier, later, rfl, hearlier⟩, rfl⟩

theorem findExecutable_eq_none_iff {entries : List String} (h : '/' ∉ name.toList)
    (hentries : session.searchDirs = entries.map session.directoryOf) :
    findExecutable host session name = none ↔
      ∀ entry ∈ entries, ¬ host.LeadsToProgram (Path.join (session.directoryOf entry) name) := by
  rw [findExecutable, if_neg (by simpa using h), hentries, List.map_map, List.find?_eq_none,
    List.forall_mem_map]
  simp only [Function.comp_apply, Host.canRun_iff]

/-- **Searching in order.** A search path is written with entries in one way. A name without a slash
leads to the program of that name in the first directory of these that has one, and nowhere exactly
if none has; no other name depends on the search path. What is found is an absolute path to a
regular file that may be run. -/
theorem findExecutable_searches_in_order (host : Host) {session : Session} {path : String}
    (hcwd : Path.isAbsolute session.cwd = true)
    (hsearch : session.searchPath = splitSearchPath path) :
    (∃! entries, HasEntries path entries) ∧ ∀ entries, HasEntries path entries →
      (∀ name, '/' ∉ name.toList →
        (∀ found, findExecutable host session name = some found ↔ ∃ earlier entry later,
          entries = earlier ++ entry :: later ∧ found = Path.join (session.directoryOf entry) name ∧
          host.LeadsToProgram found ∧ ∀ other ∈ earlier,
            ¬ host.LeadsToProgram (Path.join (session.directoryOf other) name)) ∧
        (findExecutable host session name = none ↔ ∀ entry ∈ entries,
          ¬ host.LeadsToProgram (Path.join (session.directoryOf entry) name))) ∧
      (∀ name, '/' ∈ name.toList → ∀ searchPath,
        findExecutable host { session with searchPath } name = findExecutable host session name) ∧
      ∀ name found, findExecutable host session name = some found →
        Path.isAbsolute found = true ∧ host.LeadsToProgram found := by
  refine ⟨?_, fun entries hentries ↦ ?_⟩
  · obtain ⟨entries, hentries⟩ := exists_hasEntries path
    exact ⟨entries, hentries, fun others hothers ↦ hentries.unique hothers⟩
  have hdirectories := Session.searchDirs_of_hasEntries hsearch hentries
  refine ⟨fun name hname ↦ ?_, fun name hname searchPath ↦ ?_, fun name found hfound ↦ ?_⟩
  · exact ⟨fun found ↦ findExecutable_eq_some_iff hname hdirectories,
      findExecutable_eq_none_iff hname hdirectories⟩
  · rw [findExecutable_of_slash hname, findExecutable_of_slash hname]
    rfl
  · refine ⟨?_, Host.canRun_iff.mp (canRun_of_findExecutable hfound)⟩
    -- A path comes out of the working directory, and any other name out of a directory searched.
    by_cases hname : '/' ∈ name.toList
    · rw [findExecutable_of_slash hname] at hfound
      split_ifs at hfound
      obtain rfl := Option.some.inj hfound
      exact (Session.isSettled_resolvePath hcwd name).isAbsolute
    · obtain ⟨-, entry, -, -, rfl, -, -⟩ :=
        (findExecutable_eq_some_iff hname hdirectories).mp hfound
      exact Path.isAbsolute_join (Session.isAbsolute_directoryOf hcwd entry) name

/-- A link to a program, behind an entry without text that means a directory with a directory of
that name, a file that may not be run, a link to nowhere and a directory that is missing. -/
theorem findExecutable_passes_over :
    let path := ":plain/:tools:gone:../opt:/bin"
    let entries := ["", "plain/", "tools", "gone", "../opt", "/bin"]
    let session : Session := { cwd := "/w", searchPath := splitSearchPath path, home := "/" }
    let host : Host := {
      tree := ⟨[(["w"], .directory), (["w", "ed"], .directory), (["w", "plain"], .directory),
        (["w", "plain", "ed"], .file [] false), (["w", "tools"], .directory),
        (["w", "tools", "ed"], .link "gone"), (["opt"], .directory),
        (["opt", "ed"], .link "../bin/ed"), (["bin"], .directory),
        (["bin", "ed"], .file [] true)]⟩ }
    Path.isAbsolute session.cwd = true ∧ session.searchPath = splitSearchPath path ∧
      HasEntries path entries ∧ findExecutable host session "ed" = some "/opt/ed" ∧
      host.LeadsToProgram "/opt/ed" := by
  intro path entries session host
  have hcwd : Path.isAbsolute session.cwd = true := by decide
  have hentries : HasEntries path entries := ⟨by decide, by decide, by decide⟩
  have hruns : host.LeadsToProgram "/opt/ed" := Host.canRun_iff.mp (by decide +kernel)
  have hbefore : ∀ other ∈ ["", "plain/", "tools", "gone"],
      ¬ host.LeadsToProgram (Path.join (session.directoryOf other) "ed") := by
    simp only [← Host.canRun_iff]
    decide +kernel
  have hsearch := (findExecutable_searches_in_order host hcwd rfl).2 entries hentries
  refine ⟨hcwd, rfl, hentries, ((hsearch.1 "ed" (by decide)).1 "/opt/ed").mpr ?_, hruns⟩
  exact ⟨_, "../opt", ["/bin"], rfl, by decide +kernel, hruns, hbefore⟩

end LineShell
