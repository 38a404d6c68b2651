import LineShell.Proofs.FileTree.Writing
import LineShell.Proofs.Path.Normalizing

/-!
# Walks into a directory

A path to an entry of a directory is a path to the directory and one more step. The walk over the
first part reaches the directory, however many links are on the way, and the last step is made
there (`FileTree.exists_walk_of_walk_append`). So what a path into a directory leads to has a name
that stands in that directory, whatever the entry of that name is, a link to elsewhere included. To
go there the directory had to be searched. Whether it may be listed is another question, and the
only thing that can keep the name from being learned (`FileTree.exists_list_eq_of_locate_join`).

Two names are exceptions, since they are never listed: `.` leads back to the directory, and `..` to
the one above it. Both lead to directories, provided that what is above a directory is one.
The walks of a process that works below directories only stay below directories
(`FileTree.Supports.walk`).
-/

namespace LineShell

namespace FileTree

/-! ## Going on -/

/-- The place at which a descent stops, or that of the directory that the link lies in. -/
def Stop.place : Stop → Place
  | .arrived place => place
  | .linked directory _ _ => directory

/-- Go on over further steps from where a descent stopped. -/
def goOn (tree : FileTree) (rest : List String) : Stop → Except FileError Stop
  | .arrived place => tree.descend .find place rest
  | .linked directory target todo => .ok (.linked directory target (todo ++ rest))

theorem descend_of_none {tree : FileTree} {place : Place} (h : tree.node? place = none)
    (purpose : Purpose) (step : String) (rest : List String) :
    tree.descend purpose place (step :: rest) = .error .noEntry := by
  rw [descend, h]

theorem enter_append {tree : FileTree} {place : Place} {name : String} {first : List String}
    (rest : List String)
    (ih : tree.descend .find (place ++ [name]) (first ++ rest)
      = (tree.descend .find (place ++ [name]) first).bind (tree.goOn rest)) :
    tree.enter .find place name (first ++ rest)
      = (tree.enter .find place name first).bind (tree.goOn rest) := by
  rw [enter, enter]
  cases hnode : tree.node? (place ++ [name]) with
  | none =>
    -- A missing entry may come last, and then nothing can come after it.
    cases first with
    | cons step first => rfl
    | nil =>
      cases rest with
      | nil => rfl
      | cons step rest => exact (descend_of_none hnode .find step rest).symm
  | some node =>
    cases node with
    | link target => rfl
    | directory | file | device | program => exact ih

/-- **A descent in two parts.** -/
theorem descend_append (tree : FileTree) (place : Place) (first rest : List String) :
    tree.descend .find place (first ++ rest)
      = (tree.descend .find place first).bind (tree.goOn rest) := by
  induction first generalizing place with
  | nil => rfl
  | cons step first ih =>
    rw [List.cons_append]
    cases hnode : tree.node? place with
    | none =>
      rw [descend_of_none hnode, descend_of_none hnode]
      rfl
    | some node =>
      cases node with
      | directory permissions =>
        -- Whether a step is the last one only matters where a file may be created.
        have hfind : ∀ condition : Prop, ¬ (Purpose.find = .create ∧ condition) := nofun
        rw [descend_of_directory hnode, descend_of_directory hnode, if_neg (hfind _),
          if_neg (hfind _)]
        split_ifs
        · exact ih place
        · rfl
        · exact ih place
        · exact ih place.dropLast
        · rfl
        · exact enter_append rest (ih (place ++ [step]))
      | file | link | device | program =>
        rw [descend, descend, hnode]
        rfl

section Walk

variable {tree : FileTree} {place : Place} {todo : List String}

/-- A walk whose first steps meet no link goes on from where they lead. -/
theorem walk_append_of_arrived {arrived : Place}
    (h : tree.descend .find place todo = .ok (.arrived arrived)) (allowance : Nat)
    (more : List String) :
    tree.walk .find allowance place (todo ++ more) = tree.walk .find allowance arrived more := by
  rw [walk, walk, descend_append, h]
  rfl

/-- A walk whose first steps meet a link goes on from there, if it may follow one more. -/
theorem walk_append_of_linked {directory : Place} {target : String} {rest : List String}
    (h : tree.descend .find place todo = .ok (.linked directory target rest)) (allowance : Nat)
    (more : List String) :
    tree.walk .find (allowance + 1) place (todo ++ more) =
      tree.walk .find allowance (origin directory target) (steps target ++ rest ++ more) := by
  rw [walk, descend_append, h, List.append_assoc]
  rfl

theorem walk_singleton_of_directoryAt (h : tree.DirectoryAt place) (allowance : Nat) :
    tree.walk .find allowance place [""] = .ok place := by
  obtain ⟨permissions, hnode⟩ := h
  rw [walk, descend_of_directory hnode, if_pos rfl]
  rfl

/-- A walk that leads somewhere begins with a descent that stops somewhere. -/
theorem exists_descend_of_walk {allowance : Nat} {reached : Place}
    (h : tree.walk .find allowance place todo = .ok reached) :
    ∃ stop, tree.descend .find place todo = .ok stop := by
  rw [walk] at h
  cases hdescend : tree.descend .find place todo with
  | error e =>
    rw [hdescend] at h
    contradiction
  | ok stop => exact ⟨stop, rfl⟩

theorem directoryAt_of_walk_singleton {allowance : Nat} {step : String} {reached : Place}
    (h : tree.walk .find allowance place [step] = .ok reached) : tree.DirectoryAt place := by
  by_cases hplace : tree.DirectoryAt place
  · exact hplace
  · have hnone := toOption_descend_of_not_directoryAt hplace .find step []
    obtain ⟨stop, hdescend⟩ := exists_descend_of_walk h
    rw [hdescend] at hnone
    contradiction

/-- The first steps of a walk lead somewhere without a link, or to a link that is followed. -/
theorem walk_append_cases {allowance : Nat} {more : List String} {reached : Place}
    (h : tree.walk .find allowance place (todo ++ more) = .ok reached) :
    (∃ arrived, tree.descend .find place todo = .ok (.arrived arrived) ∧
      tree.walk .find allowance arrived more = .ok reached) ∨
    ∃ left directory target rest, allowance = left + 1 ∧
      tree.descend .find place todo = .ok (.linked directory target rest) ∧
      tree.walk .find left (origin directory target) (steps target ++ rest ++ more)
        = .ok reached := by
  cases hdescend : tree.descend .find place todo with
  | error e =>
    rw [walk, descend_append, hdescend] at h
    contradiction
  | ok stop =>
    cases stop with
    | arrived arrived =>
      rw [walk_append_of_arrived hdescend] at h
      exact Or.inl ⟨arrived, rfl, h⟩
    | linked directory target rest =>
      cases allowance with
      | zero =>
        rw [walk, descend_append, hdescend] at h
        contradiction
      | succ left =>
        rw [walk_append_of_linked hdescend] at h
        exact Or.inr ⟨left, directory, target, rest, rfl, rfl, h⟩

/-- **A walk with one more step.** The steps before it lead to a directory, also if a slash comes
after them, and the last step is made there. -/
theorem exists_walk_of_walk_append {allowance : Nat} {step : String} {reached : Place}
    (h : tree.walk .find allowance place (todo ++ [step]) = .ok reached) :
    ∃ directory left, tree.DirectoryAt directory ∧
      tree.walk .find allowance place todo = .ok directory ∧
      tree.walk .find allowance place (todo ++ [""]) = .ok directory ∧
      tree.walk .find left directory [step] = .ok reached := by
  induction allowance using Nat.strongRecOn generalizing place todo with
  | ind allowance ih =>
    rcases walk_append_cases h with ⟨arrived, hdescend, hlast⟩ |
      ⟨left, directory, target, rest, rfl, hdescend, hgo⟩
    · have hdirectory : tree.DirectoryAt arrived := directoryAt_of_walk_singleton hlast
      have hthere := walk_append_of_arrived hdescend allowance
      refine ⟨arrived, allowance, hdirectory, ?_, ?_, hlast⟩
      · rw [← List.append_nil todo, hthere, walk]
        rfl
      · rw [hthere, walk_singleton_of_directoryAt hdirectory]
    · -- The last step is still the last one after the link was followed.
      obtain ⟨found, further, hfound, hwalk, hslash, hlast⟩ := ih left (Nat.lt_succ_self left) hgo
      have hfollow := walk_append_of_linked hdescend left
      refine ⟨found, further, hfound, ?_, ?_, hlast⟩
      · rw [← List.append_nil todo, hfollow, List.append_nil]
        exact hwalk
      · rw [hfollow, hslash]

end Walk

/-! ## Staying below directories -/

/-- Whether directories stand at all places above a place. -/
def Supports (tree : FileTree) (place : Place) : Prop :=
  ∀ above, above <+: place → above ≠ place → tree.DirectoryAt above

namespace Supports

variable {tree : FileTree} {place : Place}

theorem nil (tree : FileTree) : tree.Supports [] := by
  intro above habove hne
  exact absurd (List.prefix_nil.mp habove) hne

/-- An entry of a directory. -/
theorem append_singleton (h : tree.Supports place) (hplace : tree.DirectoryAt place)
    (name : String) : tree.Supports (place ++ [name]) := by
  intro above habove hne
  rcases List.prefix_concat_iff.mp habove with hself | hprefix
  · exact absurd hself hne
  · by_cases hsame : above = place
    · rw [hsame]
      exact hplace
    · exact h above hprefix hsame

theorem dropLast (h : tree.Supports place) : tree.Supports place.dropLast := by
  intro above habove hne
  refine h above (habove.trans (List.dropLast_prefix place)) ?_
  rintro rfl
  -- Only the root is above the place that is above it.
  have hlength := habove.length_le
  rw [List.length_dropLast] at hlength
  have hnil : above = [] := List.length_eq_zero_iff.mp (by omega)
  rw [hnil] at hne
  exact hne rfl

/-- What is above a supported place is a directory; the root is above itself. -/
theorem directoryAt_dropLast (h : tree.Supports place) : tree.DirectoryAt place.dropLast := by
  cases place with
  | nil => exact ⟨{}, rfl⟩
  | cons name rest =>
    refine h _ (List.dropLast_prefix _) fun hsame ↦ ?_
    have hlength := congrArg List.length hsame
    rw [List.length_dropLast, List.length_cons] at hlength
    omega

theorem origin (h : tree.Supports place) (path : String) :
    tree.Supports (FileTree.origin place path) := by
  rw [FileTree.origin]
  split_ifs
  · exact .nil tree
  · exact h

/-- A descent stops at a supported place, or at a link in a directory there. -/
theorem descend (h : tree.Supports place) {purpose : Purpose} {todo : List String} {stop : Stop}
    (hdescend : tree.descend purpose place todo = .ok stop) : tree.Supports stop.place := by
  induction todo generalizing place with
  | nil =>
    rw [← Except.ok.inj hdescend]
    exact h
  | cons step rest ih =>
    by_cases hplace : tree.DirectoryAt place
    · have hnext := h.append_singleton hplace step
      obtain ⟨permissions, hnode⟩ := hplace
      rw [descend_of_directory hnode] at hdescend
      split_ifs at hdescend
      · exact ih h hdescend
      · exact ih h hdescend
      · exact ih h.dropLast hdescend
      · rw [enter] at hdescend
        split at hdescend
        · rw [← Except.ok.inj hdescend]
          exact h
        · exact ih hnext hdescend
        · split_ifs at hdescend
          rw [← Except.ok.inj hdescend]
          exact hnext
    · have hnone := toOption_descend_of_not_directoryAt hplace purpose step rest
      rw [hdescend] at hnone
      contradiction

/-- **A walk from a supported place leads to one**, by induction on the links that are left. -/
theorem walk (h : tree.Supports place) {allowance : Nat} {todo : List String} {reached : Place}
    (hwalk : tree.walk .find allowance place todo = .ok reached) : tree.Supports reached := by
  induction allowance using Nat.strongRecOn generalizing place todo with
  | ind allowance ih =>
    rw [← List.append_nil todo] at hwalk
    rcases walk_append_cases hwalk with ⟨arrived, hdescend, hlast⟩ |
      ⟨left, directory, target, rest, rfl, hdescend, hgo⟩
    · rw [FileTree.walk] at hlast
      rw [← Except.ok.inj hlast]
      exact h.descend hdescend
    · rw [List.append_nil] at hgo
      have hdirectory : tree.Supports directory := h.descend hdescend
      exact ih left (Nat.lt_succ_self left) (hdirectory.origin target) hgo

end Supports

/-! ## Paths into a directory -/

/-- The steps of a path that are names. -/
def namedSteps (path : String) : List String :=
  ((Path.split '/' path.toList).filter fun piece ↦ !piece.isEmpty).map String.ofList

/-- A slash at the end of a path is one more step. -/
theorem steps_eq_or (path : String) :
    steps path = namedSteps path ∨ steps path = namedSteps path ++ [""] := by
  by_cases hslash : (Path.split '/' path.toList).getLast? = some []
  · refine Or.inr ?_
    rw [steps, hslash]
    exact List.map_append
  · refine Or.inl ?_
    have hends : ((Path.split '/' path.toList).getLast? == some []) = false := by simpa using hslash
    simp only [steps, hends, Bool.false_eq_true, if_false, List.append_nil]
    rfl

/-- The steps of a path whose last piece is written out. -/
theorem steps_append_name {path : String} {front name : List Char} (hname : '/' ∉ name)
    (hpath : path.toList = front ++ '/' :: name) :
    steps path = namedSteps (String.ofList front) ++ [String.ofList name] := by
  have hpieces : Path.split '/' path.toList = Path.split '/' front ++ [name] := by
    rw [hpath, Path.split_append_separator, Path.split_of_notMem hname]
  rw [namedSteps, String.toList_ofList]
  cases name with
  | nil => simp [steps, hpieces]
  | cons c cs => simp [steps, hpieces]

theorem not_isAbsolute {name : String} (h : '/' ∉ name.toList) : ¬ Path.isAbsolute name = true := by
  intro habsolute
  rw [Path.isAbsolute, beq_iff_eq] at habsolute
  exact h (List.mem_of_mem_head? habsolute)

/-- The steps of a path to an entry of a directory. -/
theorem steps_join {directory name : String} (hdirectory : directory ≠ "")
    (hname : '/' ∉ name.toList) :
    steps (Path.join directory name) = namedSteps directory ++ [name] := by
  rw [Path.join, if_neg (not_isAbsolute hname)]
  by_cases hslash : directory.toList.getLast? = some '/'
  · -- The slash that the directory ends in is the one before the name.
    obtain ⟨front, hfront⟩ := List.getLast?_eq_some_iff.mp hslash
    have hpath : (directory ++ name).toList = front ++ '/' :: name.toList := by
      rw [String.toList_append, hfront, List.append_assoc]
      rfl
    have hsame : namedSteps directory = namedSteps (String.ofList front) := by
      rw [namedSteps, namedSteps, hfront, String.toList_ofList, Path.split_append_separator,
        List.filter_append]
      exact congrArg (List.map String.ofList) (List.append_nil _)
    rw [if_pos (by rw [hslash]; simp), steps_append_name hname hpath, hsame, String.ofList_toList]
  · have hpath : (directory ++ "/" ++ name).toList = directory.toList ++ '/' :: name.toList := by
      rw [String.toList_append, String.toList_append, List.append_assoc]
      rfl
    rw [if_neg (by simp [hdirectory, hslash]), steps_append_name hname hpath, String.ofList_toList,
      String.ofList_toList]

/-- It begins with the path to the directory. -/
theorem exists_join_eq {name : String} (hname : '/' ∉ name.toList) (directory : String) :
    ∃ rest, Path.join directory name = directory ++ rest := by
  rw [Path.join, if_neg (not_isAbsolute hname)]
  split_ifs
  · exact ⟨name, rfl⟩
  · exact ⟨"/" ++ name, String.append_assoc⟩

theorem origin_append {directory : String} (h : directory ≠ "") (here : Place) (rest : String) :
    origin here (directory ++ rest) = origin here directory := by
  obtain ⟨c, cs, hchars⟩ : ∃ c cs, directory.toList = c :: cs :=
    List.exists_cons_of_ne_nil fun hnil ↦ h (String.toList_inj.mp hnil)
  have habsolute : Path.isAbsolute (directory ++ rest) = Path.isAbsolute directory := by
    rw [Path.isAbsolute, Path.isAbsolute, String.toList_append, hchars]
    rfl
  rw [origin, origin, habsolute]

/-! ## Listing -/

/-- A path leads somewhere if it says something, is not too long, and its walk leads there. -/
theorem locate_eq_ok_iff_walk {tree : FileTree} {here place : Place} {path : String}
    {purpose : Purpose} :
    tree.locate here path purpose = .ok place ↔
      path ≠ "" ∧ path.utf8ByteSize ≤ maxPathBytes ∧
        tree.walk purpose maxLinks (origin here path) (steps path) = .ok place := by
  rw [locate]
  split_ifs with hempty hlong
  · exact iff_of_false not_false fun h ↦ h.1 (by simpa using hempty)
  · exact iff_of_false not_false fun h ↦ Nat.not_lt.mpr h.2.1 hlong
  · have hpath : path ≠ "" := by simpa using hempty
    exact ⟨fun h ↦ ⟨hpath, Nat.le_of_not_lt hlong, h⟩, fun h ↦ h.2.2⟩

/-- What stands directly below a place is listed there. -/
theorem mem_childNames {tree : FileTree} {place : Place} {name : String} {node : Node}
    (h : tree.node? (place ++ [name]) = some node) : name ∈ tree.childNames place := by
  have hfind : tree.node? (place ++ [name])
      = (tree.entries.find? fun entry ↦ entry.1 = place ++ [name]).map Prod.snd := by
    cases place <;> rfl
  rw [hfind] at h
  obtain ⟨entry, hentry, -⟩ := Option.map_eq_some_iff.mp h
  have hplace : entry.1 = place ++ [name] := by simpa using List.find?_some hentry
  refine List.mem_filterMap.mpr ⟨entry, List.mem_of_find?_eq_some hentry, ?_⟩
  rw [hplace, List.dropLast_concat, if_pos rfl, List.getLast?_concat]

/-- What comes of listing a directory that a path leads to. -/
theorem list_eq {tree : FileTree} {here place : Place} {path : String} {permissions : Permissions}
    (hplace : tree.locate here path = .ok place)
    (hnode : tree.node? place = some (.directory permissions)) :
    tree.list here path =
      if permissions.list then .ok (tree.childNames place) else .error .permissionDenied := by
  simp only [list, hplace, bind, Except.bind, hnode]
  rfl

/-- A single step in a directory leads to a directory or to what an entry of it stands for. -/
theorem mem_childNames_of_walk_singleton {tree : FileTree} {allowance : Nat}
    {directory place : Place} {name : String} {node : Node} (hsupports : tree.Supports directory)
    (hdirectory : tree.DirectoryAt directory)
    (hwalk : tree.walk .find allowance directory [name] = .ok place)
    (hnode : tree.node? place = some node) (hother : node.isDirectory = false) :
    name ∈ tree.childNames directory := by
  have hplace : ∀ other, tree.DirectoryAt other → place ≠ other := by
    rintro other ⟨permissions, hdir⟩ rfl
    rw [Option.some.inj (hnode.symm.trans hdir)] at hother
    contradiction
  obtain ⟨stop, hdescend⟩ := exists_descend_of_walk hwalk
  rw [walk, hdescend] at hwalk
  have hhere := hplace directory hdirectory
  obtain ⟨permissions, hdirectory⟩ := hdirectory
  rw [descend_of_directory hdirectory] at hdescend
  -- The step stays, goes up or enters something; all but the last lead to directories.
  split_ifs at hdescend with hslash hclosed hstay hup hcreate
  · obtain rfl := Except.ok.inj hdescend
    exact absurd (Except.ok.inj hwalk).symm hhere
  · obtain rfl := Except.ok.inj hdescend
    exact absurd (Except.ok.inj hwalk).symm hhere
  · obtain rfl := Except.ok.inj hdescend
    exact absurd (Except.ok.inj hwalk).symm (hplace _ hsupports.directoryAt_dropLast)
  · rw [enter] at hdescend
    cases hentry : tree.node? (directory ++ [name]) with
    | some entry => exact mem_childNames hentry
    | none =>
      -- A missing entry would be the place that was reached.
      rw [hentry] at hdescend
      obtain rfl := Except.ok.inj hdescend
      rw [← Except.ok.inj hwalk, hentry] at hnode
      contradiction

/-- **What a path into a directory leads to stands in the directory**, unless it is a directory
itself: `.` and `..` do not. So its name is listed there if the directory may be listed, and there
is no other obstacle. -/
theorem exists_list_eq_of_locate_join {tree : FileTree} {here place : Place}
    {directory name : String} {node : Node} (hhere : tree.Supports here) (hdirectory : directory ≠ "")
    (hname : '/' ∉ name.toList) (hplace : tree.locate here (Path.join directory name) = .ok place)
    (hnode : tree.node? place = some node) (hother : node.isDirectory = false) :
    ∃ names, name ∈ names ∧
      (tree.list here directory = .ok names ∨ tree.list here directory = .error .permissionDenied) := by
  obtain ⟨-, hshort, hwalk⟩ := locate_eq_ok_iff_walk.mp hplace
  obtain ⟨rest, hrest⟩ := exists_join_eq hname directory
  rw [steps_join hdirectory hname, hrest, origin_append hdirectory] at hwalk
  obtain ⟨reached, left, hreached, hfirst, hslash, hlast⟩ := exists_walk_of_walk_append hwalk
  have hlocate : tree.locate here directory = .ok reached := by
    refine locate_eq_ok_iff_walk.mpr ⟨hdirectory, Nat.le_trans ?_ hshort, ?_⟩
    · rw [hrest, String.utf8ByteSize_append]
      exact Nat.le_add_right _ _
    · rcases steps_eq_or directory with hsteps | hsteps
      · rw [hsteps]
        exact hfirst
      · rw [hsteps]
        exact hslash
  have hsupports : tree.Supports reached := (hhere.origin directory).walk hfirst
  refine ⟨tree.childNames reached,
    mem_childNames_of_walk_singleton hsupports hreached hlast hnode hother, ?_⟩
  obtain ⟨permissions, hpermissions⟩ := hreached
  rw [list_eq hlocate hpermissions]
  split_ifs
  · exact Or.inl rfl
  · exact Or.inr rfl

end FileTree

end LineShell
