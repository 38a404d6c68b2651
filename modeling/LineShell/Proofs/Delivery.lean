import LineShell.Delivery
import LineShell.Resolution
import LineShell.Proofs.FileTree.Writing
import LineShell.Proofs.Path.Anchoring
import LineShell.Proofs.Redirection.Arguments

/-!
# What delivery does to a host

Preparing targets and writing to them changes a host by writes to files only. So nothing that a
shell asks the host about a name is answered differently afterwards: a name that led to a program
leads to the same one, and a name that led nowhere does not begin to lead to an emptied target
(`Host.Becomes.resolveName_eq`).
-/

namespace LineShell

namespace Host

/-- What writing to files can make of a host. -/
def Becomes (before after : Host) : Prop :=
  ∃ tree, before.tree.Becomes tree ∧ after = { before with tree }

namespace Becomes

variable {before after : Host}

theorem refl (host : Host) : host.Becomes host := ⟨host.tree, .refl _, rfl⟩

theorem trans {later : Host} (h : before.Becomes after) (h' : after.Becomes later) :
    before.Becomes later := by
  obtain ⟨tree, htree, rfl⟩ := h
  obtain ⟨tree', htree', rfl⟩ := h'
  exact ⟨tree', htree.trans htree', rfl⟩

theorem tree (h : before.Becomes after) : before.tree.Becomes after.tree := by
  obtain ⟨tree, htree, rfl⟩ := h
  exact htree

end Becomes

/-! ## Writing to a path -/

theorem write_eq_ok_iff {host after : Host} {mode : WriteMode} {path : String} {data : Bytes} :
    host.write mode path data = .ok after ↔ Path.hasNul path = false ∧
      ∃ tree, host.tree.write host.cwd mode path data = .ok tree ∧ after = { host with tree } := by
  rw [write, open?]
  cases hnul : Path.hasNul path with
  | true => simp [bind, Except.bind]
  | false =>
    cases host.tree.write host.cwd mode path data with
    | error e => simp [bind, Except.bind, Except.mapError]
    | ok tree =>
      simp only [Bool.false_eq_true, if_false, true_and, Except.ok.injEq, exists_eq_left']
      exact ⟨fun h ↦ (Except.ok.inj h).symm, fun h ↦ congrArg Except.ok h.symm⟩

/-! ## Looking for programs -/

theorem canRun_eq (host : Host) (path : String) :
    host.canRun path = (!Path.hasNul path &&
      ((host.tree.locate host.cwd path).toOption.bind host.tree.node?).any
        fun node ↦ node.isFile && node.isExecutable) := by
  rw [canRun, stat?, open?]
  cases Path.hasNul path with
  | true => rfl
  | false =>
    rw [← FileTree.stat?_eq, FileTree.stat?]
    cases host.tree.stat host.cwd path <;> rfl

/-- Whether a path leads, over links or not, to a regular file that may be run. -/
def LeadsToProgram (host : Host) (path : String) : Prop :=
  Path.hasNul path = false ∧ ∃ place node, host.tree.locate host.cwd path = .ok place ∧
    host.tree.node? place = some node ∧ node.isFile = true ∧ node.isExecutable = true

theorem canRun_iff {host : Host} {path : String} :
    host.canRun path = true ↔ host.LeadsToProgram path := by
  rw [canRun_eq, LeadsToProgram, Bool.and_eq_true, Bool.not_eq_true']
  refine and_congr_right fun _ ↦ ?_
  simp only [FileTree.locate_eq_ok_iff, Option.any_eq_true, Option.bind_eq_some_iff,
    Bool.and_eq_true]
  constructor
  · rintro ⟨node, ⟨place, hplace, hnode⟩, hruns⟩
    exact ⟨place, node, hplace, hnode, hruns⟩
  · rintro ⟨place, node, hplace, hnode, hruns⟩
    exact ⟨node, ⟨place, hplace, hnode⟩, hruns⟩

namespace Becomes

variable {before after : Host}

/-- **What may be run stays so.** -/
theorem canRun_eq (h : before.Becomes after) : after.canRun = before.canRun := by
  funext path
  obtain ⟨tree, htree, rfl⟩ := h
  rw [Host.canRun_eq, Host.canRun_eq, htree.toOption_locate]
  cases (before.tree.locate before.cwd path).toOption with
  | none => rfl
  | some place => rw [Option.bind_some, Option.bind_some, (htree place).any_runnable_eq]

theorem findExecutable_eq (h : before.Becomes after) (session : Session) (name : String) :
    findExecutable after session name = findExecutable before session name := by
  rw [findExecutable, findExecutable, h.canRun_eq]

/-- **Names keep their meaning.** -/
theorem resolveName_eq (h : before.Becomes after) (isCommand : Bool) (session : Session)
    (name : String) :
    resolveName isCommand after session name = resolveName isCommand before session name := by
  rw [resolveName, resolveName, h.findExecutable_eq]

end Becomes

end Host

/-! ## Targets -/

namespace Redirection

theorem writeTarget_eq_ok_iff {target : Target} {data : Bytes} {cwd : String} {host after : Host} :
    writeTarget target data cwd host = .ok after ↔
      host.write target.mode (Path.anchor cwd target.path) data = .ok after := by
  unfold writeTarget
  split <;> simp_all

theorem writeTarget_eq_refused_iff {target : Target} {data : Bytes} {cwd path : String}
    {host : Host} {e : FileError} :
    writeTarget target data cwd host = .error (.refused path e) ↔
      path = target.path ∧
        host.write target.mode (Path.anchor cwd target.path) data = .error (.file e) := by
  unfold writeTarget
  cases host.write target.mode (Path.anchor cwd target.path) data with
  | ok after => simp
  | error error => cases error <;> simp [eq_comm]

theorem becomes_of_writeTarget {target : Target} {data : Bytes} {cwd : String} {host after : Host}
    (h : writeTarget target data cwd host = .ok after) : host.Becomes after := by
  obtain ⟨-, tree, htree, rfl⟩ := Host.write_eq_ok_iff.mp (writeTarget_eq_ok_iff.mp h)
  exact ⟨tree, FileTree.becomes_of_write htree, rfl⟩

/-- Whether a target can be opened for writing in its mode. -/
def Target.Openable (target : Target) (cwd : String) (host : Host) : Prop :=
  ∃ after, writeTarget target [] cwd host = .ok after

/-- A target can be opened exactly when its path leads to a place that takes what is written. -/
theorem Target.openable_iff {target : Target} {cwd : String} {host : Host} :
    target.Openable cwd host ↔ Path.hasNul (Path.anchor cwd target.path) = false ∧
      ∃ place, host.tree.locate host.cwd (Path.anchor cwd target.path) .create = .ok place ∧
        Node.accepts [] (host.tree.node? place) = true := by
  constructor
  · rintro ⟨after, hafter⟩
    obtain ⟨hnul, tree, htree, -⟩ := Host.write_eq_ok_iff.mp (writeTarget_eq_ok_iff.mp hafter)
    exact ⟨hnul, FileTree.exists_write_eq_ok_iff.mp ⟨tree, htree⟩⟩
  · rintro ⟨hnul, hplace⟩
    obtain ⟨tree, htree⟩ : ∃ tree, host.tree.write host.cwd target.mode
        (Path.anchor cwd target.path) [] = .ok tree := FileTree.exists_write_eq_ok_iff.mpr hplace
    exact ⟨{ host with tree },
      writeTarget_eq_ok_iff.mpr (Host.write_eq_ok_iff.mpr ⟨hnul, tree, htree, rfl⟩)⟩

/-- A target that cannot be opened is refused for one reason, whatever is to be written. -/
theorem Target.exists_write_eq_error {target : Target} {cwd : String} {host : Host}
    (hclosed : ¬target.Openable cwd host)
    (hnul : Path.hasNul (Path.anchor cwd target.path) = false) :
    ∃ e, ∀ data,
      host.write target.mode (Path.anchor cwd target.path) data = .error (.file e) := by
  have hnone : ¬∃ tree, host.tree.write host.cwd target.mode (Path.anchor cwd target.path) []
      = .ok tree := by
    rintro ⟨tree, htree⟩
    exact hclosed ⟨{ host with tree },
      writeTarget_eq_ok_iff.mpr (Host.write_eq_ok_iff.mpr ⟨hnul, tree, htree, rfl⟩)⟩
  obtain ⟨e, he⟩ := FileTree.exists_forall_write_eq_error hnone
  refine ⟨e, fun data ↦ ?_⟩
  rw [Host.write, Host.open?, hnul, he data]
  rfl

/-- Writing to some files neither closes others nor opens them, as long as paths are seen from the
same place. -/
theorem Target.openable_iff_of_tree {target : Target} {cwd : String} {before after : Host}
    (htree : before.tree.Becomes after.tree)
    (hcwd : Path.isAbsolute cwd = true ∨ after.cwd = before.cwd) :
    target.Openable cwd after ↔ target.Openable cwd before := by
  have hlocate : after.tree.locate after.cwd (Path.anchor cwd target.path) .create
      = after.tree.locate before.cwd (Path.anchor cwd target.path) .create := by
    rcases hcwd with habsolute | hcwd
    · exact FileTree.locate_of_isAbsolute (Path.isAbsolute_anchor habsolute target.path) _ _ _ _
    · rw [hcwd]
  rw [Target.openable_iff, Target.openable_iff, hlocate]
  refine and_congr_right fun _ ↦ exists_congr fun place ↦ ?_
  rw [FileTree.locate_eq_ok_iff, FileTree.locate_eq_ok_iff, htree.toOption_locate,
    (htree place).accepts_eq]

/-- Writing to some files neither closes others nor opens them. -/
theorem openable_iff_of_becomes {target : Target} {cwd : String} {before after : Host}
    (h : before.Becomes after) : target.Openable cwd after ↔ target.Openable cwd before := by
  obtain ⟨tree, htree, rfl⟩ := h
  exact Target.openable_iff_of_tree htree (Or.inr rfl)

theorem prepareTargets_cons (cwd : String) (target : Target) (rest : List Target) (host : Host) :
    prepareTargets cwd (target :: rest) host =
      match target.mode with
      | .append => prepareTargets cwd rest host
      | .truncate =>
        match writeTarget target [] cwd host with
        | .ok opened => prepareTargets cwd rest opened
        | .error e => (.error e, host) := by
  rfl

/-- Preparing targets writes to files, also when it comes to a target that cannot be used. -/
theorem becomes_prepareTargets (cwd : String) (targets : List Target) (host : Host) :
    host.Becomes (prepareTargets cwd targets host).2 := by
  induction targets generalizing host with
  | nil => exact .refl host
  | cons target rest ih =>
    rw [prepareTargets_cons]
    split
    · exact ih host
    · split
      · next opened hopened => exact (becomes_of_writeTarget hopened).trans (ih opened)
      · exact .refl host

/-- Preparing that fails comes to a target to be emptied that cannot be used, once those before it
were prepared. -/
theorem exists_of_prepareTargets_eq_error {cwd : String} {targets : List Target}
    {host after : Host} {e : TargetError}
    (h : prepareTargets cwd targets host = (.error e, after)) :
    ∃ earlier target later, targets = earlier ++ target :: later ∧ target.mode = .truncate ∧
      prepareTargets cwd earlier host = (.ok (), after) ∧
      writeTarget target [] cwd after = .error e := by
  induction targets generalizing host with
  | nil => exact nomatch congrArg Prod.fst h
  | cons first rest ih =>
    rw [prepareTargets_cons] at h
    cases hmode : first.mode with
    | append =>
      rw [hmode] at h
      obtain ⟨earlier, target, later, rfl, htruncate, hearlier, hwrite⟩ := ih h
      refine ⟨first :: earlier, target, later, rfl, htruncate, ?_, hwrite⟩
      rw [prepareTargets_cons, hmode]
      exact hearlier
    | truncate =>
      rw [hmode] at h
      cases hopened : writeTarget first [] cwd host with
      | ok opened =>
        rw [hopened] at h
        obtain ⟨earlier, target, later, rfl, htruncate, hearlier, hwrite⟩ := ih h
        refine ⟨first :: earlier, target, later, rfl, htruncate, ?_, hwrite⟩
        rw [prepareTargets_cons, hmode]
        dsimp only
        rw [hopened]
        exact hearlier
      | error e =>
        rw [hopened] at h
        obtain ⟨he, rfl⟩ := Prod.mk.inj h
        obtain rfl := Except.error.inj he
        exact ⟨[], first, rest, rfl, hmode, rfl, hopened⟩

/-- Targets can be prepared one after the other exactly if those to be emptied can be opened one by
one. -/
theorem prepareTargets_eq_ok_iff {cwd : String} {targets : List Target} {host : Host} :
    (prepareTargets cwd targets host).1 = .ok () ↔
      ∀ target ∈ targets, target.mode = .truncate → target.Openable cwd host := by
  induction targets generalizing host with
  | nil => exact iff_of_true rfl nofun
  | cons target rest ih =>
    rw [prepareTargets_cons, List.forall_mem_cons]
    cases hmode : target.mode with
    | append => simp [ih]
    | truncate =>
      cases hopened : writeTarget target [] cwd host with
      | ok opened =>
        have hbecomes := becomes_of_writeTarget hopened
        simp only [ih, openable_iff_of_becomes hbecomes]
        exact (and_iff_right fun _ ↦ ⟨opened, hopened⟩).symm
      | error e =>
        refine iff_of_false nofun fun hopen ↦ ?_
        obtain ⟨opened, hopen⟩ := hopen.1 rfl
        rw [hopened] at hopen
        contradiction

theorem prepareTargets_of_openable {cwd : String} {targets : List Target} {host : Host}
    (h : ∀ target ∈ targets, target.mode = .truncate → target.Openable cwd host) :
    (prepareTargets cwd targets host).1 = .ok () :=
  prepareTargets_eq_ok_iff.mpr h

/-! ## Targets that lead to regular files -/

/-- Whether the path of a target leads to a place that is free or holds a regular file. What a
program of the host consists of is not known, so such a target is not appended to. -/
structure Target.LeadsTo (target : Target) (cwd : String) (host : Host) (place : Place) : Prop where
  hasNul_eq : Path.hasNul (Path.anchor cwd target.path) = false
  locate_eq : host.tree.locate host.cwd (Path.anchor cwd target.path) .create = .ok place
  regularAt : host.tree.RegularAt place
  node?_ne_program : target.mode = .append → ∀ name, host.tree.node? place ≠ some (.program name)

/-- Whether a file tree comes from another one by writing data for a target at a place. -/
def Target.Receives (target : Target) (data : Bytes) (place : Place) (before after : FileTree) :
    Prop :=
  after.node? place = some (.file (FileTree.written target.mode (before.contents place) data)
    (before.executableAt place))

theorem Target.Receives.contents_eq {target : Target} {data : Bytes} {place : Place}
    {before after : FileTree} (h : target.Receives data place before after) :
    after.contents place = FileTree.written target.mode (before.contents place) data := by
  rw [FileTree.contents, h]

namespace Target.LeadsTo

variable {target : Target} {cwd : String} {host : Host} {place : Place}

theorem openable (h : target.LeadsTo cwd host place) : target.Openable cwd host :=
  Target.openable_iff.mpr ⟨h.hasNul_eq, place, h.locate_eq, h.regularAt.accepts []⟩

/-- Where a target leads is not changed by writing to files. -/
theorem of_writes (h : target.LeadsTo cwd host place) {tree : FileTree}
    (hbecomes : host.tree.Becomes tree) : target.LeadsTo cwd { host with tree } place where
  hasNul_eq := h.hasNul_eq
  locate_eq := hbecomes.locate_eq_ok h.locate_eq
  regularAt := hbecomes.regularAt place h.regularAt
  node?_ne_program := fun hmode name ↦
    hbecomes.node?_ne_program place (h.node?_ne_program hmode name)

/-- Seen from an absolute directory, it does not depend on the working directory of the process
either. -/
theorem of_becomes (h : target.LeadsTo cwd host place) (habsolute : Path.isAbsolute cwd = true)
    {after : Host} (hbecomes : host.tree.Becomes after.tree) : target.LeadsTo cwd after place where
  __ := h.of_writes hbecomes
  locate_eq := by
    rw [FileTree.locate_of_isAbsolute (Path.isAbsolute_anchor habsolute target.path) after.tree
      after.cwd host.cwd]
    exact (h.of_writes hbecomes).locate_eq

/-- **Writing for a target.** The file that the target leads to receives the data, and nothing else
on the host changes. -/
theorem exists_writeTarget (h : target.LeadsTo cwd host place) (data : Bytes) :
    ∃ tree, writeTarget target data cwd host = .ok { host with tree } ∧
      target.Receives data place host.tree tree ∧
      ∀ other, other ≠ place → tree.node? other = host.tree.node? other := by
  refine ⟨_, writeTarget_eq_ok_iff.mpr (Host.write_eq_ok_iff.mpr ⟨h.hasNul_eq, _,
    FileTree.write_of_regularAt h.locate_eq h.regularAt target.mode data, rfl⟩), ?_, ?_⟩
  · exact FileTree.node?_put_self h.regularAt.ne_nil
  · exact fun other hother ↦ FileTree.node?_put_of_ne hother

end Target.LeadsTo

/-- Preparing targets touches only the places that the targets to be emptied lead to. -/
theorem node?_prepareTargets {cwd : String} {targets : List Target} {host : Host} {other : Place}
    (habsolute : Path.isAbsolute cwd = true)
    (h : ∀ target ∈ targets, target.mode = .truncate →
      ∃ place, target.LeadsTo cwd host place ∧ other ≠ place) :
    (prepareTargets cwd targets host).2.tree.node? other = host.tree.node? other := by
  induction targets generalizing host with
  | nil => rfl
  | cons target rest ih =>
    rw [prepareTargets_cons]
    cases hmode : target.mode with
    | append => exact ih fun later hlater ↦ h later (List.mem_cons_of_mem target hlater)
    | truncate =>
      obtain ⟨place, hplace, hother⟩ := h target List.mem_cons_self hmode
      obtain ⟨tree, hwrite, -, hframe⟩ := hplace.exists_writeTarget []
      have hbecomes := (becomes_of_writeTarget hwrite).tree
      rw [hwrite]
      -- Emptying this target does not change where the later ones lead.
      refine (ih fun later hlater hlatermode ↦ ?_).trans (hframe other hother)
      obtain ⟨elsewhere, helsewhere, hne⟩ := h later (List.mem_cons_of_mem target hlater) hlatermode
      exact ⟨elsewhere, helsewhere.of_becomes habsolute hbecomes, hne⟩

/-! ## Plans whose targets lead apart -/

/-- Whether the targets of a plan lead to regular files, and no two of them to the same. -/
structure Plan.LeadsApart (plan : Plan) (cwd : String) (host : Host) (place : Stream → Place) :
    Prop where
  leadsTo : ∀ stream target, plan.target? stream = some target →
    target.LeadsTo cwd host (place stream)
  place_ne : ∀ stream other, stream ≠ other → (plan.target? stream).isSome = true →
    (plan.target? other).isSome = true → place stream ≠ place other

namespace Plan.LeadsApart

variable {plan : Plan} {cwd : String} {host : Host} {place : Stream → Place}
  (h : plan.LeadsApart cwd host place)
include h

theorem of_becomes (habsolute : Path.isAbsolute cwd = true) {after : Host}
    (hbecomes : host.tree.Becomes after.tree) : plan.LeadsApart cwd after place where
  leadsTo := fun stream target htarget ↦
    (h.leadsTo stream target htarget).of_becomes habsolute hbecomes
  place_ne := h.place_ne

theorem prepare_eq_ok : (plan.prepare cwd host).1 = .ok () := by
  refine prepareTargets_of_openable fun target htarget _ ↦ ?_
  obtain ⟨stream, hstream⟩ := mem_targets_iff.mp htarget
  exact (h.leadsTo stream target hstream).openable

/-- Preparing a plan touches at most the places of its targets. -/
theorem node?_prepare (habsolute : Path.isAbsolute cwd = true) {other : Place}
    (hother : ∀ stream target, plan.target? stream = some target → target.mode = .truncate →
      other ≠ place stream) :
    (plan.prepare cwd host).2.tree.node? other = host.tree.node? other := by
  refine node?_prepareTargets habsolute fun target htarget hmode ↦ ?_
  obtain ⟨stream, hstream⟩ := mem_targets_iff.mp htarget
  exact ⟨place stream, h.leadsTo stream target hstream, hother stream target hstream hmode⟩

/-- What a file receives after its plan was prepared, it would receive without. -/
theorem receives_of_prepare (habsolute : Path.isAbsolute cwd = true) {stream : Stream}
    {target : Target} (htarget : plan.target? stream = some target) {data : Bytes}
    {after : FileTree}
    (hreceives : target.Receives data (place stream) (plan.prepare cwd host).2.tree after) :
    target.Receives data (place stream) host.tree after := by
  have hwritten : FileTree.written target.mode
      ((plan.prepare cwd host).2.tree.contents (place stream)) data
        = FileTree.written target.mode (host.tree.contents (place stream)) data := by
    cases hmode : target.mode with
    | truncate => rfl
    | append =>
      -- A target that is emptied is another one, and so it leads to another place.
      rw [FileTree.contents, FileTree.contents, h.node?_prepare habsolute]
      intro other emptied hemptied hemptiedmode
      refine h.place_ne stream other ?_ (by rw [htarget]; rfl) (by rw [hemptied]; rfl)
      rintro rfl
      rw [Option.some.inj (htarget.symm.trans hemptied), hemptiedmode] at hmode
      contradiction
  have hexecutable := (becomes_prepareTargets cwd plan.targets host).tree.executableAt_eq
    (place stream)
  rw [Target.Receives, hwritten] at hreceives
  rw [Target.Receives, hreceives, ← hexecutable]
  rfl

end Plan.LeadsApart

/-! ## Plans whose targets lead to one file -/

/-- Whether a plan sends both streams to files, and the two files are one regular file, whatever
its paths are and in whatever modes it is opened. -/
structure Plan.LeadsTogether (plan : Plan) (stdout stderr : Target) (cwd : String) (host : Host)
    (place : Place) : Prop where
  plan_eq : plan = ⟨some stdout, some stderr⟩
  stdout_leadsTo : stdout.LeadsTo cwd host place
  stderr_leadsTo : stderr.LeadsTo cwd host place

namespace Plan.LeadsTogether

variable {plan : Plan} {stdout stderr : Target} {cwd : String} {host : Host} {place : Place}
  (h : plan.LeadsTogether stdout stderr cwd host place)
include h

theorem of_becomes (habsolute : Path.isAbsolute cwd = true) {after : Host}
    (hbecomes : host.tree.Becomes after.tree) :
    plan.LeadsTogether stdout stderr cwd after place where
  plan_eq := h.plan_eq
  stdout_leadsTo := h.stdout_leadsTo.of_becomes habsolute hbecomes
  stderr_leadsTo := h.stderr_leadsTo.of_becomes habsolute hbecomes

theorem prepare_eq_ok : (plan.prepare cwd host).1 = .ok () := by
  refine prepareTargets_of_openable fun target htarget _ ↦ ?_
  rw [h.plan_eq] at htarget
  rcases List.mem_pair.mp htarget with rfl | rfl
  · exact h.stdout_leadsTo.openable
  · exact h.stderr_leadsTo.openable

end Plan.LeadsTogether

/-! ## NUL characters -/

/-- A target is refused for a NUL character exactly if its path holds one, seen from the
directory. -/
theorem writeTarget_eq_hasNul_iff {target : Target} {data : Bytes} {cwd : String} {host : Host} :
    writeTarget target data cwd host = .error .hasNul ↔
      Path.hasNul (Path.anchor cwd target.path) = true := by
  unfold writeTarget
  rw [Host.write, Host.open?]
  cases hnul : Path.hasNul (Path.anchor cwd target.path) with
  | true => exact iff_of_true rfl rfl
  | false =>
    refine iff_of_false ?_ Bool.false_ne_true
    cases host.tree.write host.cwd target.mode (Path.anchor cwd target.path) data <;>
      simp [bind, Except.bind, Except.mapError, pure, Except.pure]

/-- Preparing stops at a NUL character only if a target to be emptied has one. -/
theorem prepare_ne_hasNul {plan : Plan} {cwd : String} {host : Host}
    (h : ∀ target ∈ plan.targets, target.mode = .truncate →
      Path.hasNul (Path.anchor cwd target.path) = false) :
    (plan.prepare cwd host).1 ≠ .error .hasNul := by
  intro hprepare
  obtain ⟨earlier, target, later, htargets, hmode, -, hwrite⟩ :=
    exists_of_prepareTargets_eq_error (Prod.ext hprepare rfl)
  have htarget : target ∈ plan.targets := by
    rw [htargets]
    exact List.mem_append_right earlier List.mem_cons_self
  rw [writeTarget_eq_hasNul_iff, h target htarget hmode] at hwrite
  contradiction

end Redirection

end LineShell
