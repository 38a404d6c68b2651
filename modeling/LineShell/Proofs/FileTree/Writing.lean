import LineShell.FileTree.Walk
import Mathlib.Tactic.SplitIfs

/-!
# What writing to files does to a file tree

Writing creates files, which are not executable, and changes the contents of files, which stay as
executable as they were. It makes no directory and no link. `FileTree.Becomes` says so place by
place, and this is all that later arguments need to know about any number of writes.

The consequence is that writing never moves anything: a walk that arrives somewhere still arrives
there (`FileTree.Becomes.toOption_locate`). Only the reason for which a walk fails may change, since
a file may now stand where nothing stood before; so the walks are compared as options.
-/

namespace LineShell

/-! ## One place -/

namespace Node

/-- What writing to files can make of what stands at a place. -/
inductive Becomes : Option Node → Option Node → Prop
  | same (node? : Option Node) : Becomes node? node?
  | created (content : Bytes) : Becomes none (some (.file content false))
  | rewritten {node : Node} (content : Bytes) : node.isFile = true →
      Becomes (some node) (some (.file content node.isExecutable))

theorem Becomes.trans {a b c : Option Node} (hab : Becomes a b) (hbc : Becomes b c) :
    Becomes a c := by
  cases hab with
  | same => exact hbc
  | created =>
    cases hbc with
    | same => exact .created _
    | rewritten content _ => exact .created content
  | rewritten _ hfile =>
    cases hbc with
    | same => exact .rewritten _ hfile
    | rewritten content _ => exact .rewritten content hfile

/-- Writing leaves alone what stands at a place, or it leaves a file where there was a file or
nothing. -/
theorem Becomes.eq_or_isFile {a b : Option Node} (h : Becomes a b) :
    b = a ∨ (a.all isFile = true ∧ ∃ node, b = some node ∧ node.isFile = true) := by
  cases h with
  | same => exact Or.inl rfl
  | created => exact Or.inr ⟨rfl, _, rfl, rfl⟩
  | rewritten _ hfile => exact Or.inr ⟨hfile, _, rfl, rfl⟩

/-- Whether data can be written where this stands. -/
def accepts (data : Bytes) : Option Node → Bool
  | none => true
  | some (.file _ _) => true
  | some (.program _) => true
  | some (.device .null) => true
  | some (.device .full) => data.isEmpty
  | some (.directory _) => false
  | some (.link _) => false

theorem Becomes.accepts_eq {a b : Option Node} (h : Becomes a b) (data : Bytes) :
    accepts data b = accepts data a := by
  cases h with
  | same => rfl
  | created => rfl
  | @rewritten node content hfile => cases node <;> simp_all [isFile, accepts]

/-- Writing does not make anything a program that may be run, nor takes that away. -/
theorem Becomes.any_runnable_eq {a b : Option Node} (h : Becomes a b) :
    b.any (fun node ↦ node.isFile && node.isExecutable)
      = a.any fun node ↦ node.isFile && node.isExecutable := by
  cases h with
  | same => rfl
  | created => rfl
  | @rewritten node content hfile => cases node <;> simp_all [isFile, isExecutable]

theorem Becomes.any_isExecutable_eq {a b : Option Node} (h : Becomes a b) :
    b.any isExecutable = a.any isExecutable := by
  cases h <;> rfl

/-- Writing makes no program of the host's own. -/
theorem Becomes.eq_of_program {a b : Option Node} {name : String} (h : Becomes a b)
    (hprogram : b = some (.program name)) : a = some (.program name) := by
  cases h with
  | same => exact hprogram
  | created => exact absurd (Option.some.inj hprogram) Node.noConfusion
  | rewritten => exact absurd (Option.some.inj hprogram) Node.noConfusion

end Node

/-! ## The whole tree -/

namespace FileTree

/-- What writing to files can make of a file tree. -/
def Becomes (before after : FileTree) : Prop :=
  ∀ place, Node.Becomes (before.node? place) (after.node? place)

/-! ### One step of a descent -/

/-- Whether a directory stands at a place, whatever may be done with it. -/
def DirectoryAt (tree : FileTree) (place : Place) : Prop :=
  ∃ permissions, tree.node? place = some (.directory permissions)

/-- Go on to a name below a place. -/
def enter (tree : FileTree) (purpose : Purpose) (place : Place) (name : String)
    (rest : List String) : Except FileError Stop :=
  match tree.node? (place ++ [name]) with
  | some (.link target) => .ok (.linked place target rest)
  | some _ => tree.descend purpose (place ++ [name]) rest
  | none => if rest.isEmpty then .ok (.arrived (place ++ [name])) else .error .noEntry

/-- A step goes on from a directory, which has to be searched unless the step only demands it. -/
theorem descend_of_directory {tree : FileTree} {place : Place} {permissions : Permissions}
    (h : tree.node? place = some (.directory permissions)) (purpose : Purpose) (step : String)
    (rest : List String) :
    tree.descend purpose place (step :: rest) =
      if step = "" then tree.descend purpose place rest
      else if !permissions.search then .error .permissionDenied
      else if step = "." then tree.descend purpose place rest
      else if step = ".." then tree.descend purpose place.dropLast rest
      else if purpose = .create ∧ rest = [""] then .error .isDirectory
      else if maxNameBytes < step.utf8ByteSize then .error .nameTooLong
      else tree.enter purpose place step rest := by
  rw [descend, h]
  rfl

/-- A descent goes on from directories only. -/
theorem toOption_descend_of_not_directoryAt {tree : FileTree} {place : Place}
    (h : ¬ tree.DirectoryAt place) (purpose : Purpose) (step : String) (rest : List String) :
    (tree.descend purpose place (step :: rest)).toOption = none := by
  rw [descend]
  split
  case h_1 => rfl
  case h_2 permissions hnode => exact absurd ⟨permissions, hnode⟩ h
  case h_3 => rfl

/-! ### Walks as options -/

theorem toOption_walk_zero (tree : FileTree) (purpose : Purpose) (place : Place)
    (todo : List String) :
    (tree.walk purpose 0 place todo).toOption =
      (tree.descend purpose place todo).toOption.bind fun
        | .arrived reached => some reached
        | .linked _ _ _ => none := by
  rw [walk]
  cases tree.descend purpose place todo with
  | error => rfl
  | ok stop => cases stop <;> rfl

theorem toOption_walk_succ (tree : FileTree) (purpose : Purpose) (allowance : Nat) (place : Place)
    (todo : List String) :
    (tree.walk purpose (allowance + 1) place todo).toOption =
      (tree.descend purpose place todo).toOption.bind fun
        | .arrived reached => some reached
        | .linked directory target rest =>
          (tree.walk purpose allowance (origin directory target)
            (steps target ++ rest)).toOption := by
  rw [walk]
  cases tree.descend purpose place todo with
  | error => rfl
  | ok stop => cases stop <;> rfl

theorem locate_eq_ok_iff {tree : FileTree} {here place : Place} {path : String}
    {purpose : Purpose} :
    tree.locate here path purpose = .ok place ↔
      (tree.locate here path purpose).toOption = some place := by
  cases tree.locate here path purpose with
  | error e => exact iff_of_false nofun nofun
  | ok other => simp [Except.toOption]

theorem stat?_eq (tree : FileTree) (here : Place) (path : String) :
    tree.stat? here path = (tree.locate here path).toOption.bind tree.node? := by
  rw [stat?, stat]
  cases tree.locate here path with
  | error => rfl
  | ok place =>
    change _ = tree.node? place
    cases hnode : tree.node? place <;>
      simp [bind, Except.bind, hnode, pure, Except.pure, throw, throwThe, MonadExceptOf.throw,
        Except.toOption]

namespace Becomes

variable {before after : FileTree}

theorem refl (tree : FileTree) : tree.Becomes tree := fun _ ↦ .same _

theorem trans {later : FileTree} (h : before.Becomes after) (h' : after.Becomes later) :
    before.Becomes later := fun place ↦ (h place).trans (h' place)

theorem directory_iff (h : before.Becomes after) (place : Place) (permissions : Permissions) :
    after.node? place = some (.directory permissions) ↔
      before.node? place = some (.directory permissions) := by
  rcases (h place).eq_or_isFile with hsame | ⟨hbefore, node, hafter, hfile⟩
  · rw [hsame]
  · constructor
    · intro hdirectory
      rw [Option.some.inj (hafter.symm.trans hdirectory)] at hfile
      contradiction
    · intro hdirectory
      rw [hdirectory] at hbefore
      contradiction

theorem directoryAt_iff (h : before.Becomes after) (place : Place) :
    after.DirectoryAt place ↔ before.DirectoryAt place :=
  exists_congr (h.directory_iff place)

/-! ### Walks -/

/-- What lies below a file is nowhere, so it does not matter that it was nowhere before. -/
theorem toOption_enter (h : before.Becomes after) (purpose : Purpose) (place : Place)
    (name : String) (rest : List String)
    (ih : (after.descend purpose (place ++ [name]) rest).toOption
      = (before.descend purpose (place ++ [name]) rest).toOption) :
    (after.enter purpose place name rest).toOption
      = (before.enter purpose place name rest).toOption := by
  rcases (h (place ++ [name])).eq_or_isFile with hsame | ⟨hbefore, node, hafter, hfile⟩
  · rw [enter, enter, hsame]
    split
    · rfl
    · exact ih
    · rfl
  · have hgone : after.enter purpose place name rest
        = after.descend purpose (place ++ [name]) rest := by
      rw [enter, hafter]
      cases node <;> first | rfl | contradiction
    rw [hgone, enter]
    cases hnode : before.node? (place ++ [name]) with
    | none =>
      cases rest with
      | nil => rfl
      | cons step rest =>
        -- What is below failed for want of an entry and fails now for want of a directory.
        rw [toOption_descend_of_not_directoryAt]
        · rfl
        · rintro ⟨permissions, hdirectory⟩
          rw [Option.some.inj (hafter.symm.trans hdirectory)] at hfile
          contradiction
    | some other =>
      rw [hnode] at hbefore
      cases other <;> first | exact ih | contradiction

/-- A descent stops at the same place or link. -/
theorem toOption_descend (h : before.Becomes after) (purpose : Purpose) (place : Place)
    (todo : List String) :
    (after.descend purpose place todo).toOption = (before.descend purpose place todo).toOption := by
  induction todo generalizing place with
  | nil => rfl
  | cons step rest ih =>
    by_cases hdirectory : before.DirectoryAt place
    · obtain ⟨permissions, hnode⟩ := hdirectory
      rw [descend_of_directory hnode,
        descend_of_directory ((h.directory_iff place permissions).mpr hnode)]
      split_ifs
      · exact ih place
      · rfl
      · exact ih place
      · exact ih place.dropLast
      · rfl
      · rfl
      · exact h.toOption_enter purpose place step rest (ih (place ++ [step]))
    · rw [toOption_descend_of_not_directoryAt hdirectory,
        toOption_descend_of_not_directoryAt (mt (h.directoryAt_iff place).mp hdirectory)]

/-- A walk arrives at the same place. -/
theorem toOption_walk (h : before.Becomes after) (purpose : Purpose) (allowance : Nat)
    (place : Place) (todo : List String) :
    (after.walk purpose allowance place todo).toOption
      = (before.walk purpose allowance place todo).toOption := by
  induction allowance generalizing place todo with
  | zero => rw [toOption_walk_zero, toOption_walk_zero, h.toOption_descend]
  | succ allowance ih =>
    rw [toOption_walk_succ, toOption_walk_succ, h.toOption_descend]
    simp only [ih]

/-- **Writing moves nothing.** A path that leads somewhere leads there after files were written, and
one that led nowhere leads nowhere. -/
theorem toOption_locate (h : before.Becomes after) (here : Place) (path : String)
    (purpose : Purpose) :
    (after.locate here path purpose).toOption = (before.locate here path purpose).toOption := by
  rw [locate, locate]
  split_ifs
  · rfl
  · rfl
  · exact h.toOption_walk purpose maxLinks (origin here path) (steps path)

theorem locate_eq_ok (h : before.Becomes after) {here : Place} {path : String} {purpose : Purpose}
    {place : Place} (hplace : before.locate here path purpose = .ok place) :
    after.locate here path purpose = .ok place := by
  rw [locate_eq_ok_iff] at hplace ⊢
  rw [h.toOption_locate, hplace]

end Becomes

/-! ## Writing -/

/-- What a file holds; nothing if there is none. -/
def contents (tree : FileTree) (place : Place) : Bytes :=
  match tree.node? place with
  | some (.file content _) => content
  | _ => []

/-- Whether a program that may be run stands at a place. -/
def executableAt (tree : FileTree) (place : Place) : Bool :=
  (tree.node? place).any Node.isExecutable

/-- Whether a place is free or holds a regular file. -/
def RegularAt (tree : FileTree) (place : Place) : Prop :=
  (tree.node? place).all Node.isFile = true

theorem RegularAt.ne_nil {tree : FileTree} {place : Place} (h : tree.RegularAt place) :
    place ≠ [] := by
  rintro rfl
  contradiction

/-- The write that a path asks for is made at the place that it leads to. -/
theorem write_of_locate {tree : FileTree} {here place : Place} {path : String}
    (hplace : tree.locate here path .create = .ok place) (mode : WriteMode) (data : Bytes) :
    tree.write here mode path data =
      match tree.node? place with
      | none => .ok (tree.put place (.file data false))
      | some (.file old executable) =>
        .ok (tree.put place (.file (written mode old data) executable))
      | some (.program _) => .ok (tree.put place (.file data true))
      | some (.directory _) => .error .isDirectory
      | some (.device .null) => .ok tree
      | some (.device .full) => if data.isEmpty then .ok tree else .error .noSpace
      | some (.link _) => .error .tooManyLinks := by
  rw [write, hplace]
  rfl

theorem exists_locate_of_write {tree after : FileTree} {here : Place} {mode : WriteMode}
    {path : String} {data : Bytes} (h : tree.write here mode path data = .ok after) :
    ∃ place, tree.locate here path .create = .ok place := by
  rw [write] at h
  cases hplace : tree.locate here path .create with
  | error e => rw [hplace] at h; contradiction
  | ok place => exact ⟨place, rfl⟩

/-- **Writing to a regular file.** Where a file stands or can be created, a write leaves a file with
the data in the stead of its contents or behind them. -/
theorem write_of_regularAt {tree : FileTree} {here place : Place} {path : String}
    (hplace : tree.locate here path .create = .ok place) (hregular : tree.RegularAt place)
    (mode : WriteMode) (data : Bytes) :
    tree.write here mode path data = .ok (tree.put place
      (.file (written mode (tree.contents place) data) (tree.executableAt place))) := by
  rw [write_of_locate hplace, contents, executableAt]
  rw [RegularAt] at hregular
  cases hnode : tree.node? place with
  | none => cases mode <;> rfl
  | some node =>
    rw [hnode] at hregular
    cases node with
    | file old executable => rfl
    | program name => cases mode <;> rfl
    | directory | link | device => contradiction

theorem RegularAt.accepts {tree : FileTree} {place : Place} (h : tree.RegularAt place)
    (data : Bytes) : Node.accepts data (tree.node? place) = true := by
  rw [RegularAt] at h
  cases hnode : tree.node? place with
  | none => rfl
  | some node =>
    rw [hnode] at h
    cases node with
    | file | program => rfl
    | directory | link | device => contradiction

namespace Becomes

variable {before after : FileTree} (h : before.Becomes after) (place : Place)
include h

theorem executableAt_eq : after.executableAt place = before.executableAt place := by
  rw [executableAt, executableAt, (h place).any_isExecutable_eq]

theorem regularAt (hregular : before.RegularAt place) : after.RegularAt place := by
  rcases (h place).eq_or_isFile with hsame | ⟨-, node, hafter, hfile⟩
  · rwa [RegularAt, hsame]
  · rw [RegularAt, hafter]
    exact hfile

theorem node?_ne_program {name : String} (hbefore : before.node? place ≠ some (.program name)) :
    after.node? place ≠ some (.program name) :=
  fun hafter ↦ hbefore ((h place).eq_of_program hafter)

end Becomes

theorem becomes_put {tree : FileTree} {place : Place} (h : tree.RegularAt place)
    (content : Bytes) :
    tree.Becomes (tree.put place (.file content (tree.executableAt place))) := by
  intro other
  by_cases hother : other = place
  · subst hother
    rw [node?_put_self h.ne_nil, executableAt]
    rw [RegularAt] at h
    cases hnode : tree.node? other with
    | none => exact .created content
    | some node =>
      rw [hnode] at h
      exact .rewritten content h
  · rw [node?_put_of_ne hother]
    exact .same _

/-- A write leaves the tree as it is, or makes one file of it. -/
theorem eq_or_eq_put_of_write {tree after : FileTree} {here : Place} {mode : WriteMode}
    {path : String} {data : Bytes} (h : tree.write here mode path data = .ok after) :
    after = tree ∨ ∃ place, tree.locate here path .create = .ok place ∧ tree.RegularAt place ∧
      after = tree.put place
        (.file (written mode (tree.contents place) data) (tree.executableAt place)) := by
  obtain ⟨place, hplace⟩ := exists_locate_of_write h
  by_cases hregular : tree.RegularAt place
  · rw [write_of_regularAt hplace hregular] at h
    exact Or.inr ⟨place, hplace, hregular, (Except.ok.inj h).symm⟩
  · -- What is no regular file and yet accepts a write is a device, which stays as it is.
    refine Or.inl ?_
    rw [write_of_locate hplace] at h
    rw [RegularAt] at hregular
    cases hnode : tree.node? place with
    | none => simp [hnode] at hregular
    | some node =>
      rw [hnode] at h hregular
      cases node with
      | file | program => simp [Node.isFile] at hregular
      | directory | link => contradiction
      | device device =>
        cases device with
        | null => exact (Except.ok.inj h).symm
        | full =>
          dsimp only at h
          split at h
          · exact (Except.ok.inj h).symm
          · contradiction

theorem becomes_of_write {tree after : FileTree} {here : Place} {mode : WriteMode} {path : String}
    {data : Bytes} (h : tree.write here mode path data = .ok after) : tree.Becomes after := by
  rcases eq_or_eq_put_of_write h with rfl | ⟨place, -, hregular, rfl⟩
  · exact Becomes.refl after
  · exact becomes_put hregular _

/-- A write succeeds exactly when its path leads somewhere and what stands there accepts it. -/
theorem exists_write_eq_ok_iff {tree : FileTree} {here : Place} {mode : WriteMode} {path : String}
    {data : Bytes} :
    (∃ after, tree.write here mode path data = .ok after) ↔
      ∃ place, tree.locate here path .create = .ok place ∧
        Node.accepts data (tree.node? place) = true := by
  constructor
  · rintro ⟨after, h⟩
    obtain ⟨place, hplace⟩ := exists_locate_of_write h
    refine ⟨place, hplace, ?_⟩
    rw [write_of_locate hplace] at h
    cases hnode : tree.node? place with
    | none => rfl
    | some node =>
      rw [hnode] at h
      cases node with
      | file | program => rfl
      | directory | link => contradiction
      | device device =>
        cases device with
        | null => rfl
        | full =>
          by_cases hdata : data.isEmpty = true
          · exact hdata
          · simp [hdata] at h
  · rintro ⟨place, hplace, haccepts⟩
    rw [write_of_locate hplace]
    split <;> simp_all [Node.accepts]

/-- Where a file cannot be opened, the reason does not depend on what was to be written. -/
theorem exists_forall_write_eq_error {tree : FileTree} {here : Place} {mode : WriteMode}
    {path : String} (h : ¬∃ after, tree.write here mode path [] = .ok after) :
    ∃ e, ∀ data, tree.write here mode path data = .error e := by
  cases hplace : tree.locate here path .create with
  | error e =>
    refine ⟨e, fun data ↦ ?_⟩
    rw [write, hplace]
    rfl
  | ok place =>
    simp only [write_of_locate hplace] at h ⊢
    cases hnode : tree.node? place with
    | none => simp [hnode] at h
    | some node =>
      rw [hnode] at h
      cases node with
      | directory => exact ⟨.isDirectory, fun _ ↦ rfl⟩
      | link => exact ⟨.tooManyLinks, fun _ ↦ rfl⟩
      | file | program => simp at h
      | device device => cases device <;> simp at h

end FileTree

end LineShell
