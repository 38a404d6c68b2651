import LineShell.Proofs.Path.Normalizing
import LineShell.Proofs.Shell.Keeping

/-!
# What procedures ask for

Since procedures are data, what a command of the shell can do to the world is bounded by the
requests in its procedure. `Procedure.Confined` bounds the three kinds of requests by which a
procedure reaches for the world itself: the sessions that it must be prepared to be shown, the paths
that it looks at and the directories that it enters. Executing text and resolving names are left to
it, since there the shell reaches for the world.

Of the commands that every shell knows only `cd` looks at a path or enters a directory, and it does
so where its argument leads from the session that it is shown.
-/

namespace LineShell

/-- Procedures that, shown only such sessions, look only at such paths and enter only such
directories. -/
inductive Procedure.Confined (shown : Session → Prop) (looks enters : String → Prop) :
    Procedure → Prop
  | reply (result : CommandResult) : Confined shown looks enters (.reply result)
  | refuse (message : String) : Confined shown looks enters (.refuse message)
  | crash (message : String) : Confined shown looks enters (.crash message)
  | requestExit (code : Int) {next : Procedure} :
      Confined shown looks enters next → Confined shown looks enters (.requestExit code next)
  | exec (text : String) {next : Except Fault CommandResult → Procedure} :
      (∀ answer, Confined shown looks enters (next answer)) →
      Confined shown looks enters (.exec text next)
  | session {next : Session → Procedure} :
      (∀ session, shown session → Confined shown looks enters (next session)) →
      Confined shown looks enters (.session next)
  | resolve (name : String) {next : Resolution → Procedure} :
      (∀ resolution, Confined shown looks enters (next resolution)) →
      Confined shown looks enters (.resolve name next)
  | stat {path : String} {next : Option Node → Procedure} :
      looks path → (∀ node?, Confined shown looks enters (next node?)) →
      Confined shown looks enters (.stat path next)
  | chdir {path : String} {next : Except PathError Unit → Procedure} :
      enters path → (∀ answer, Confined shown looks enters (next answer)) →
      Confined shown looks enters (.chdir path next)

/-- Procedures that never ask for a directory to be entered. -/
def Procedure.Stays : Procedure → Prop :=
  Confined (fun _ ↦ True) (fun _ ↦ True) fun _ ↦ False

/-- A procedure that is confined is confined within wider bounds, and if it is shown less. -/
theorem Procedure.Confined.mono {shown shown' : Session → Prop}
    {looks looks' enters enters' : String → Prop} {procedure : Procedure}
    (h : procedure.Confined shown looks enters) (hshown : ∀ session, shown' session → shown session)
    (hlooks : ∀ path, looks path → looks' path) (henters : ∀ path, enters path → enters' path) :
    procedure.Confined shown' looks' enters' := by
  induction h with
  | reply result => exact .reply result
  | refuse message => exact .refuse message
  | crash message => exact .crash message
  | requestExit code _ ih => exact .requestExit code ih
  | exec text _ ih => exact .exec text ih
  | session _ ih => exact .session fun session hsession ↦ ih session (hshown session hsession)
  | resolve name _ ih => exact .resolve name ih
  | stat hpath _ ih => exact .stat (hlooks _ hpath) ih
  | chdir hpath _ ih => exact .chdir (henters _ hpath) ih

/-! ## The commands that every shell knows -/

namespace Builtin

variable {shown : Session → Prop} {looks enters : String → Prop}

theorem confined_typeFrom (printed : String) (missing : Bool) (names : List String) :
    (typeFrom printed missing names).Confined shown looks enters := by
  induction names generalizing printed missing with
  | nil => exact .reply _
  | cons name rest ih => exact .resolve name fun resolution ↦ ih _ _

/-- `cd` looks at the place that its argument means, and enters it. -/
theorem confined_cd (h : ∀ session, shown session → ∀ location,
      looks (session.expand location) ∧ enters (session.expand location)) (args : List String) :
    (cd args).Confined shown looks enters := by
  refine .session fun session hsession ↦ ?_
  obtain ⟨hlooks, henters⟩ := h session hsession (args.headD "~")
  refine .stat hlooks fun node? ↦ ?_
  cases node? with
  | none => exact .refuse _
  | some node =>
    dsimp only
    split_ifs
    · refine .chdir henters fun answer ↦ ?_
      split
      · exact .reply _
      · exact .refuse _
      · exact .crash _
    · exact .refuse _

/-- The other commands leave the world alone. -/
theorem confined_of_mem_standardCommands {entry : String × Handler}
    (hentry : entry ∈ standardCommands.entries) (hname : entry.1 ≠ "cd") (args : List String) :
    (entry.2 args).Confined shown looks enters := by
  simp only [standardCommands, List.mem_cons, List.not_mem_nil, or_false] at hentry
  rcases hentry with rfl | rfl | rfl | rfl | rfl
  · cases args with
    | nil => exact .requestExit 0 (.reply _)
    | cons status rest =>
      change (exit (status :: rest)).Confined shown looks enters
      rw [exit]
      cases Text.integer? status <;> exact .requestExit _ (.reply _)
  · cases args with
    | nil => exact .reply _
    | cons name rest => exact confined_typeFrom _ _ _
  · contradiction
  · exact .session fun session _ ↦ .reply _
  · exact .reply _

end Builtin

/-! ## Tables of commands -/

namespace CommandTable

variable {α : Type}

theorem mem_of_find? {table : CommandTable α} {name : String} {command : α}
    (h : table.find? name = some command) : (name, command) ∈ table.entries := by
  obtain ⟨entry, hentry, rfl⟩ := Option.map_eq_some_iff.mp h
  have hname : entry.1 = name := by simpa using List.find?_some hentry
  rw [← hname]
  exact List.mem_of_find?_eq_some hentry

/-- A registered name has the command that it was given, and the others keep theirs. -/
theorem find?_insert (table : CommandTable α) (name other : String) (command : α) :
    (table.insert name command).find? other =
      if other = name then some command else table.find? other := by
  rw [insert]
  cases hcontains : table.contains name with
  | true =>
    have hkeys : ∀ entry : String × α,
        (if entry.1 = name then (name, command) else entry).1 = entry.1 := by
      intro entry
      split_ifs with hentry
      · exact hentry.symm
      · rfl
    simp only [find?, if_true, List.find?_map, Function.comp_def, hkeys, Option.map_map]
    split_ifs with hother
    · subst hother
      have hfound : (table.find? other).isSome = true := by rw [isSome_find?, hcontains]
      rw [find?, Option.isSome_map] at hfound
      obtain ⟨entry, hentry⟩ := Option.isSome_iff_exists.mp hfound
      have hname : entry.1 = other := by simpa using List.find?_some hentry
      rw [hentry, Option.map_some, if_pos hname]
    · refine Option.map_congr fun entry hentry ↦ ?_
      have hname : entry.1 = other := by simpa using List.find?_some hentry
      rw [if_neg fun hsame ↦ hother (hname.symm.trans hsame)]
  | false =>
    have hmissing : table.find? name = none := by
      rw [← Option.not_isSome_iff_eq_none, isSome_find?, hcontains]
      exact Bool.false_ne_true
    rw [if_neg Bool.false_ne_true, find?, List.find?_append, Option.map_or, ← find?]
    split_ifs with hother
    · rw [hother, hmissing]
      simp
    · simp [Ne.symm hother]

end CommandTable

/-! ## Shells that move by `cd` -/

/-- Shells that know `cd` and none of whose other commands enters a directory by itself. -/
structure Shell.MovesByCd (shell : Shell) : Prop where
  find?_cd : shell.commands.find? "cd" = some Builtin.cd
  stays : ∀ {name handler}, shell.commands.find? name = some handler → name ≠ "cd" →
    ∀ args, (handler args).Stays

namespace Shell.MovesByCd

/-- The shells that know the commands of every shell and no others are such. -/
theorem standard (launcher : Launcher) : Shell.MovesByCd { launcher } where
  find?_cd := rfl
  stays := fun hfind hname args ↦
    Builtin.confined_of_mem_standardCommands (CommandTable.mem_of_find? hfind) hname args

/-- Registering commands that enter no directory keeps them such. -/
theorem insert {shell : Shell} (h : shell.MovesByCd) {name : String} (hname : name ≠ "cd")
    {handler : Handler} (hhandler : ∀ args, (handler args).Stays) :
    Shell.MovesByCd { shell with commands := shell.commands.insert name handler } where
  find?_cd := by
    rw [CommandTable.find?_insert, if_neg hname.symm]
    exact h.find?_cd
  stays := by
    intro other command hfind hother args
    rw [CommandTable.find?_insert] at hfind
    split_ifs at hfind
    · rw [← Option.some.inj hfind]
      exact hhandler args
    · exact h.stays hfind hother args

/-- Each command of such a shell enters only directories in normal form, if the sessions that it is
shown are rooted. -/
theorem confined {shell : Shell} (h : shell.MovesByCd) {name : String} {handler : Handler}
    (hfind : shell.commands.find? name = some handler) (args : List String) :
    (handler args).Confined Session.IsRooted (fun _ ↦ True) Path.IsSettled := by
  by_cases hname : name = "cd"
  · rw [hname, h.find?_cd] at hfind
    rw [← Option.some.inj hfind]
    exact Builtin.confined_cd
      (fun _ hsession location ↦ ⟨trivial, Session.isSettled_expand hsession location⟩) args
  · exact (h.stays hfind hname args).mono (fun _ _ ↦ trivial) (fun _ _ ↦ trivial) fun _ ↦ False.elim

end Shell.MovesByCd

end LineShell
