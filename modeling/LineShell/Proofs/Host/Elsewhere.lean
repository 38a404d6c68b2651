import LineShell.Completion
import LineShell.Proofs.Delivery
import LineShell.Proofs.Path.Normalizing

/-!
# Hosts seen from elsewhere

A host is seen by a process that works somewhere. The same host can be seen by a process that works
elsewhere (`Host.movedTo`), and all that is named by absolute paths looks alike from there: what
stands at a path, what writing to it does, what a command name stands for and which names complete a
beginning, as long as the session that asks works in a directory that is named by an absolute path.
-/

namespace LineShell

/-! ## Absolute paths -/

namespace FileTree

variable {path : String} (h : Path.isAbsolute path = true) (tree : FileTree) (here there : Place)
include h

theorem stat_of_isAbsolute : tree.stat here path = tree.stat there path := by
  rw [stat, stat, locate_of_isAbsolute h tree here there]

theorem list_of_isAbsolute : tree.list here path = tree.list there path := by
  rw [list, list, locate_of_isAbsolute h tree here there]

theorem workingPlace_of_isAbsolute : tree.workingPlace here path = tree.workingPlace there path := by
  rw [workingPlace, workingPlace, locate_of_isAbsolute h tree here there]

theorem write_of_isAbsolute (mode : WriteMode) (data : Bytes) :
    tree.write here mode path data = tree.write there mode path data := by
  rw [write, write, locate_of_isAbsolute h tree here there]

end FileTree

/-- The same host, seen by a process that works somewhere else. -/
def Host.movedTo (here : Place) (host : Host) : Host :=
  { host with cwd := here }

namespace Host

variable {path : String} (h : Path.isAbsolute path = true) (host : Host) (here : Place)
include h

theorem stat?_movedTo : (host.movedTo here).stat? path = host.stat? path := by
  have hstat : (host.movedTo here).tree.stat (host.movedTo here).cwd path
      = host.tree.stat host.cwd path := FileTree.stat_of_isAbsolute h _ _ _
  rw [stat?, stat?, hstat]

theorem canRun_movedTo : (host.movedTo here).canRun path = host.canRun path := by
  rw [canRun, canRun, stat?_movedTo h]

theorem list_movedTo : (host.movedTo here).list path = host.list path := by
  have hlist : (host.movedTo here).tree.list (host.movedTo here).cwd path
      = host.tree.list host.cwd path := FileTree.list_of_isAbsolute h _ _ _
  rw [list, list, hlist]

theorem write_movedTo (mode : WriteMode) (data : Bytes) :
    (host.movedTo here).write mode path data
      = (host.write mode path data).map (Host.movedTo here) := by
  have hwrite : (host.movedTo here).tree.write (host.movedTo here).cwd mode path data
      = host.tree.write host.cwd mode path data := FileTree.write_of_isAbsolute h _ _ _ mode data
  rw [write, write, hwrite]
  cases open? path (host.tree.write host.cwd mode path data) <;> rfl

end Host

/-! ## Redirection targets -/

namespace Redirection

variable {cwd : String} (h : Path.isAbsolute cwd = true) (host : Host) (here : Place)
include h

theorem writeTarget_movedTo (target : Target) (data : Bytes) :
    writeTarget target data cwd (host.movedTo here)
      = (writeTarget target data cwd host).map (Host.movedTo here) := by
  have habsolute := Path.isAbsolute_anchor h target.path
  unfold writeTarget
  rw [Host.write_movedTo habsolute]
  cases host.write target.mode (Path.anchor cwd target.path) data with
  | ok written => rfl
  | error e => cases e <;> rfl

theorem prepareTargets_movedTo (targets : List Target) :
    prepareTargets cwd targets (host.movedTo here) =
      ((prepareTargets cwd targets host).1, (prepareTargets cwd targets host).2.movedTo here) := by
  induction targets generalizing host with
  | nil => rfl
  | cons target rest ih =>
    rw [prepareTargets_cons, prepareTargets_cons]
    cases target.mode with
    | append => exact ih host
    | truncate =>
      dsimp only
      rw [writeTarget_movedTo h]
      cases writeTarget target [] cwd host with
      | ok written => exact ih written
      | error e => rfl

end Redirection

/-! ## Names -/

section Names

variable {session : Session} (h : Path.isAbsolute session.cwd = true) (host : Host) (here : Place)
include h

theorem findExecutable_movedTo (name : String) :
    findExecutable (host.movedTo here) session name = findExecutable host session name := by
  rw [findExecutable, findExecutable]
  split_ifs
  · have hpath := (Session.isSettled_resolvePath h name).isAbsolute
    dsimp only
    rw [Host.canRun_movedTo hpath]
  · have hpaths : ∀ path ∈ session.searchDirs.map fun directory ↦ Path.join directory name,
        (host.movedTo here).canRun path = host.canRun path := by
      intro path hpath
      obtain ⟨directory, hdirectory, rfl⟩ := List.mem_map.mp hpath
      have habsolute := Path.isAbsolute_join
        (Session.isAbsolute_of_mem_searchDirs h hdirectory) name
      exact Host.canRun_movedTo habsolute host here
    rw [← List.head?_filter, ← List.head?_filter, List.filter_congr hpaths]

theorem resolveName_movedTo (isCommand : Bool) (name : String) :
    resolveName isCommand (host.movedTo here) session name
      = resolveName isCommand host session name := by
  rw [resolveName, resolveName, findExecutable_movedTo h]

omit h in
theorem entriesOf_movedTo {directories : List String}
    (hdirectories : ∀ directory ∈ directories, Path.isAbsolute directory = true) :
    entriesOf (host.movedTo here) directories = entriesOf host directories := by
  induction directories with
  | nil => rfl
  | cons directory rest ih =>
    have hrest := ih fun other hother ↦ hdirectories other (List.mem_cons_of_mem directory hother)
    rw [entriesOf, entriesOf, hrest,
      Host.list_movedTo (hdirectories directory List.mem_cons_self)]

theorem candidates_movedTo (commands : List String) (start : String) :
    candidates commands (host.movedTo here) session start
      = candidates commands host session start := by
  rw [candidates, candidates, entriesOf_movedTo host here fun _ hdirectory ↦
    Session.isAbsolute_of_mem_searchDirs h hdirectory]

end Names

end LineShell
