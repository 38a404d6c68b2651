import LineShell.Proofs.Path.Anchoring
import LineShell.Session

/-!
# Normal forms of paths

A path is normalized by reading its names, reducing them and writing them again. Reducing leaves a
stack in which `..` stands on nothing that it could take away (`Path.Reduced`), and such a stack is
rebuilt as it is when its names are pushed once more. Writing loses nothing either: the slashes and
the names that are written are read again. So a normal form is its own normal form
(`Path.normalize_normalize`).

The normal form of an absolute path is absolute, and so is everything that is seen from an absolute
directory. Hence a session whose working directory and home are absolute resolves and expands every
text to an absolute path in normal form (`Session.isSettled_expand`).
-/

namespace LineShell.Path

/-! ## Reading what was written -/

theorem notMem_of_mem_split {separator : Char} {cs piece : List Char}
    (hpiece : piece ∈ split separator cs) : separator ∉ piece := by
  induction cs generalizing piece with
  | nil =>
    rw [split, List.mem_singleton] at hpiece
    rw [hpiece]
    exact List.not_mem_nil
  | cons d cs ih =>
    rw [split] at hpiece
    split_ifs at hpiece with hd
    · rcases List.mem_cons.mp hpiece with rfl | hpiece
      · exact List.not_mem_nil
      · exact ih hpiece
    · cases hsplit : split separator cs with
      | nil => exact absurd hsplit (split_ne_nil separator cs)
      | cons first rest =>
        rw [hsplit] at hpiece ih
        rcases List.mem_cons.mp hpiece with rfl | hpiece
        · have hfirst : separator ∉ first := ih List.mem_cons_self
          exact List.not_mem_cons_of_ne_of_not_mem (Ne.symm hd) hfirst
        · exact ih (List.mem_cons_of_mem first hpiece)

/-- Splitting a text is splitting the list of its characters. -/
theorem split_eq_splitOn (separator : Char) (cs : List Char) :
    split separator cs = cs.splitOn separator := by
  induction cs with
  | nil => rfl
  | cons c cs ih =>
    rw [split, List.splitOn_cons_eq_if_modifyHead, ← ih]
    simp only [beq_iff_eq]
    split_ifs
    · rfl
    · cases hsplit : split separator cs with
      | nil => exact absurd hsplit (split_ne_nil separator cs)
      | cons first rest => rfl

theorem split_of_notMem {separator : Char} {cs : List Char} (h : separator ∉ cs) :
    split separator cs = [cs] := by
  rw [split_eq_splitOn, List.splitOn_eq_singleton h]

/-- A separator between two texts stands between their pieces. -/
theorem split_append_separator (separator : Char) (cs rest : List Char) :
    split separator (cs ++ separator :: rest) = split separator cs ++ split separator rest := by
  rw [split_eq_splitOn, split_eq_splitOn, split_eq_splitOn, List.splitOn_append_cons_self]

/-- Splitting is the inverse of joining. -/
theorem split_intercalate {separator : Char} {parts : List (List Char)} (hparts : parts ≠ [])
    (h : ∀ part ∈ parts, separator ∉ part) :
    split separator ([separator].intercalate parts) = parts := by
  rw [split_eq_splitOn, List.splitOn_intercalate separator h hparts]

/-- Joining is the inverse of splitting. -/
theorem intercalate_split (separator : Char) (cs : List Char) :
    [separator].intercalate (split separator cs) = cs := by
  rw [split_eq_splitOn, List.intercalate_splitOn]

/-- Names as they are read off a path: they say something and hold no slash. -/
def IsName (name : List Char) : Prop :=
  isIdle name = false ∧ '/' ∉ name

theorem isName_of_mem_names {path name : List Char} (h : name ∈ names path) : IsName name := by
  obtain ⟨hpiece, hidle⟩ := List.mem_filter.mp h
  exact ⟨by simpa using hidle, notMem_of_mem_split hpiece⟩

theorem IsName.ne_nil {name : List Char} (h : IsName name) : name ≠ [] := by
  rintro rfl
  exact Bool.noConfusion h.1

theorem names_slash_cons (path : List Char) : names ('/' :: path) = names path := by
  rw [names, split, if_pos rfl]
  rfl

theorem names_replicate_append (count : Nat) (path : List Char) :
    names (List.replicate count '/' ++ path) = names path := by
  induction count with
  | zero => rfl
  | succ count ih => rw [List.replicate_succ, List.cons_append, names_slash_cons, ih]

/-- The names of paths with a slash between them are those of the first and then those of the
second. -/
theorem names_append_slash_append (path rest : List Char) :
    names (path ++ '/' :: rest) = names path ++ names rest := by
  rw [names, split_append_separator, List.filter_append, ← names, ← names]

/-- A slash at the end of a path says nothing. -/
theorem names_append_slash (path : List Char) : names (path ++ ['/']) = names path := by
  rw [names_append_slash_append]
  exact List.append_nil _

/-- Neither does a dot after it. -/
theorem names_append_slash_dot (path : List Char) : names (path ++ ['/', '.']) = names path := by
  rw [names_append_slash_append]
  exact List.append_nil _

theorem names_intercalate {parts : List (List Char)} (h : ∀ part ∈ parts, IsName part) :
    names (['/'].intercalate parts) = parts := by
  by_cases hparts : parts = []
  · subst hparts
    rfl
  · rw [names, split_intercalate hparts fun part hpart ↦ (h part hpart).2]
    refine List.filter_eq_self.mpr fun part hpart ↦ ?_
    rw [(h part hpart).1]
    rfl

/-- The names that were written are read again. -/
theorem names_write {parts : List (List Char)} (h : ∀ part ∈ parts, IsName part) (count : Nat) :
    names (write count parts) = parts := by
  rw [write]
  split_ifs with hempty
  · rw [hempty.2]
    rfl
  · rw [names_replicate_append, names_intercalate h]

theorem head?_intercalate_ne {parts : List (List Char)} (h : ∀ part ∈ parts, IsName part) :
    (['/'].intercalate parts).head? ≠ some '/' := by
  cases parts with
  | nil => exact nofun
  | cons first rest =>
    have hfirst : IsName first := h first List.mem_cons_self
    obtain ⟨c, cs, rfl⟩ := List.exists_cons_of_ne_nil hfirst.ne_nil
    have hhead : (['/'].intercalate ((c :: cs) :: rest)).head? = some c := by
      cases rest with
      | nil => rfl
      | cons second rest =>
        rw [List.intercalate_cons_cons, List.append_assoc, List.cons_append]
        rfl
    rw [hhead]
    rintro hslash
    rw [Option.some.inj hslash] at hfirst
    exact hfirst.2 List.mem_cons_self

theorem slashes_le (path : List Char) : slashes path ≤ 2 := by
  unfold slashes
  split <;> decide

theorem slashes_replicate_append {count : Nat} (hcount : count ≤ 2) {path : List Char}
    (h : path.head? ≠ some '/') : slashes (List.replicate count '/' ++ path) = count := by
  have hcases : count = 0 ∨ count = 1 ∨ count = 2 := by omega
  cases path with
  | nil => rcases hcases with rfl | rfl | rfl <;> rfl
  | cons c cs =>
    have hc : c ≠ '/' := fun hslash ↦ h (congrArg some hslash)
    rcases hcases with rfl | rfl | rfl <;> simp [slashes, List.replicate, hc]

/-- The slashes that were written are read again. -/
theorem slashes_write {parts : List (List Char)} (h : ∀ part ∈ parts, IsName part) {count : Nat}
    (hcount : count ≤ 2) : slashes (write count parts) = count := by
  rw [write]
  split_ifs with hempty
  · rw [hempty.1]
    rfl
  · exact slashes_replicate_append hcount (head?_intercalate_ne h)

/-! ## Reducing what was reduced -/

section Push

variable {rooted : Bool} {stack : List (List Char)}

theorem pushName_of_ne {name : List Char} (h : name ≠ ['.', '.']) :
    pushName rooted stack name = name :: stack := by
  unfold pushName
  exact if_neg h

theorem pushName_up_nil :
    pushName rooted [] ['.', '.'] = if rooted then [] else [['.', '.']] := rfl

theorem pushName_up_cons (top : List Char) :
    pushName rooted (top :: stack) ['.', '.'] =
      if top = ['.', '.'] then ['.', '.'] :: top :: stack else stack := rfl

/-- A push adds at most the name that is pushed. -/
theorem mem_of_mem_pushName {name other : List Char} (h : other ∈ pushName rooted stack name) :
    other ∈ stack ∨ other = name := by
  by_cases hname : name = ['.', '.']
  · subst hname
    cases stack with
    | nil =>
      rw [pushName_up_nil] at h
      split_ifs at h
      · contradiction
      · exact Or.inr (List.mem_singleton.mp h)
    | cons top below =>
      rw [pushName_up_cons] at h
      split_ifs at h
      · exact (List.mem_cons.mp h).symm
      · exact Or.inl (List.mem_cons_of_mem top h)
  · rw [pushName_of_ne hname] at h
    exact (List.mem_cons.mp h).symm

end Push

/-- Stacks of names, the last name first, in which every `..` stands on other `..` only. On the
stack of a rooted path there is none. -/
inductive Reduced (rooted : Bool) : List (List Char) → Prop
  | nil : Reduced rooted []
  | up {stack : List (List Char)} : rooted = false →
      (∀ top ∈ stack.head?, top = ['.', '.']) → Reduced rooted stack →
      Reduced rooted (['.', '.'] :: stack)
  | name {name : List Char} {stack : List (List Char)} : name ≠ ['.', '.'] →
      Reduced rooted stack → Reduced rooted (name :: stack)

namespace Reduced

variable {rooted : Bool} {stack : List (List Char)}

theorem tail {top : List Char} (h : Reduced rooted (top :: stack)) : Reduced rooted stack := by
  cases h with
  | up _ _ hstack => exact hstack
  | name _ hstack => exact hstack

theorem pushName (h : Reduced rooted stack) (name : List Char) :
    Reduced rooted (Path.pushName rooted stack name) := by
  by_cases hname : name = ['.', '.']
  · subst hname
    cases stack with
    | nil =>
      rw [pushName_up_nil]
      cases rooted with
      | true => exact .nil
      | false => exact .up rfl nofun .nil
    | cons top below =>
      rw [pushName_up_cons]
      split_ifs with htop
      · subst htop
        cases h with
        | up hrooted hbelow hstack =>
          refine .up hrooted ?_ (.up hrooted hbelow hstack)
          intro top htop
          exact (Option.some.inj htop).symm
        | name hname => contradiction
      · exact h.tail
  · rw [pushName_of_ne hname]
    exact .name hname h

theorem foldl_pushName (h : Reduced rooted stack) (parts : List (List Char)) :
    Reduced rooted (parts.foldl (Path.pushName rooted) stack) := by
  induction parts generalizing stack with
  | nil => exact h
  | cons name rest ih => exact ih (h.pushName name)

/-- Pushing the names of a reduced stack once more gives the stack. -/
theorem foldl_reverse (h : Reduced rooted stack) :
    stack.reverse.foldl (Path.pushName rooted) [] = stack := by
  induction h with
  | nil => rfl
  | @up stack hrooted hstack _ ih =>
    rw [List.reverse_cons, List.foldl_append, ih, List.foldl_cons, List.foldl_nil]
    cases stack with
    | nil => rw [pushName_up_nil, hrooted, if_neg Bool.false_ne_true]
    | cons top below => rw [pushName_up_cons, if_pos (hstack top rfl)]
  | name hname _ ih =>
    rw [List.reverse_cons, List.foldl_append, ih, List.foldl_cons, List.foldl_nil,
      pushName_of_ne hname]

end Reduced

theorem reduce_reduce (rooted : Bool) (parts : List (List Char)) :
    reduce rooted (reduce rooted parts) = reduce rooted parts := by
  have hstack : Reduced rooted (parts.foldl (pushName rooted) []) :=
    Reduced.nil.foldl_pushName parts
  rw [reduce, reduce, hstack.foldl_reverse]

theorem mem_of_mem_foldl_pushName {rooted : Bool} {stack parts : List (List Char)}
    {name : List Char} (h : name ∈ parts.foldl (pushName rooted) stack) :
    name ∈ stack ∨ name ∈ parts := by
  induction parts generalizing stack with
  | nil => exact Or.inl h
  | cons first rest ih =>
    rcases ih h with hstack | hrest
    · rcases mem_of_mem_pushName hstack with hstack | rfl
      · exact Or.inl hstack
      · exact Or.inr List.mem_cons_self
    · exact Or.inr (List.mem_cons_of_mem first hrest)

/-- Reducing names adds none. -/
theorem mem_of_mem_reduce {rooted : Bool} {parts : List (List Char)} {name : List Char}
    (h : name ∈ reduce rooted parts) : name ∈ parts :=
  (mem_of_mem_foldl_pushName (List.mem_reverse.mp h)).resolve_left List.not_mem_nil

/-! ## Normal forms -/

/-- A normal form depends on the slashes and the names of a path only. -/
theorem normalize_congr {path other : String}
    (hslashes : slashes path.toList = slashes other.toList)
    (hnames : names path.toList = names other.toList) : normalize path = normalize other := by
  rw [normalize, normalize, normalizeChars, normalizeChars, hslashes, hnames]

theorem isName_of_mem_reduce {rooted : Bool} {path name : List Char}
    (h : name ∈ reduce rooted (names path)) : IsName name :=
  isName_of_mem_names (mem_of_mem_reduce h)

/-- A normal form begins with as many slashes as the path counts with. -/
theorem slashes_normalize (path : String) :
    slashes (normalize path).toList = slashes path.toList := by
  rw [normalize, String.toList_ofList, normalizeChars]
  exact slashes_write (fun _ ↦ isName_of_mem_reduce) (slashes_le path.toList)

/-- The names in a normal form are the reduced names of the path. -/
theorem names_normalize (path : String) : names (normalize path).toList
    = reduce (slashes path.toList != 0) (names path.toList) := by
  rw [normalize, String.toList_ofList, normalizeChars]
  exact names_write (fun _ ↦ isName_of_mem_reduce) _

theorem normalize_eq (path : String) : normalize path = String.ofList
    (write (slashes path.toList) (reduce (slashes path.toList != 0) (names path.toList))) := rfl

/-- **A normal form is its own normal form.** -/
theorem normalize_normalize (path : String) : normalize (normalize path) = normalize path := by
  rw [normalize_eq (normalize path), slashes_normalize, names_normalize, reduce_reduce,
    ← normalize_eq]

theorem isAbsolute_normalize {path : String} (h : isAbsolute path = true) :
    isAbsolute (normalize path) = true := by
  rw [isAbsolute, beq_iff_eq] at h ⊢
  rw [normalize, String.toList_ofList]
  exact head?_write (slashes_ne_zero h) _

theorem isAbsolute_append {base : String} (h : isAbsolute base = true) (path : String) :
    isAbsolute (base ++ path) = true := by
  rw [isAbsolute, beq_iff_eq] at h ⊢
  rw [String.toList_append, List.head?_append, h]
  rfl

/-- What is seen from an absolute directory is absolute. -/
theorem isAbsolute_join {base : String} (h : isAbsolute base = true) (path : String) :
    isAbsolute (join base path) = true := by
  rw [join]
  split_ifs with hpath
  · exact hpath
  · exact isAbsolute_append h path
  · exact isAbsolute_append (isAbsolute_append h "/") path

/-- Absolute paths in normal form. -/
structure IsSettled (path : String) : Prop where
  isAbsolute : Path.isAbsolute path = true
  normalize_eq : normalize path = path

theorem isSettled_normalize {path : String} (h : isAbsolute path = true) :
    IsSettled (normalize path) :=
  ⟨isAbsolute_normalize h, normalize_normalize path⟩

/-- A slash at the end of an absolute path is no leading one, unless the path ends in one before. -/
theorem slashes_append_slash {path : List Char} (h : path.head? = some '/')
    (hlast : path.getLast? ≠ some '/') : slashes (path ++ ['/']) = slashes path := by
  cases path with
  | nil => contradiction
  | cons c rest =>
    obtain rfl := Option.some.inj h
    cases rest with
    | nil => contradiction
    | cons d cs =>
      by_cases hd : d = '/'
      · subst hd
        cases cs with
        | nil => contradiction
        | cons e cs => by_cases he : e = '/' <;> simp [slashes, he]
      · simp [slashes, hd]

theorem normalize_append_slash {path : String} (h : isAbsolute path = true)
    (hlast : path.toList.getLast? ≠ some '/') : normalize (path ++ "/") = normalize path := by
  rw [isAbsolute, beq_iff_eq] at h
  refine normalize_congr ?_ ?_
  · rw [String.toList_append]
    exact slashes_append_slash h hlast
  · rw [String.toList_append]
    exact names_append_slash path.toList

/-- Seen from an absolute path, the empty one means that path. -/
theorem normalize_join_empty {path : String} (h : isAbsolute path = true) :
    normalize (join path "") = normalize path := by
  have hempty : isAbsolute "" = false := rfl
  rw [join, hempty, if_neg Bool.false_ne_true]
  split_ifs with hends
  · rw [String.append_empty]
  · rw [String.append_empty]
    refine normalize_append_slash h fun hlast ↦ hends ?_
    rw [hlast, beq_self_eq_true, Bool.or_true]

/-- What does not begin with a slash adds none to those in front. -/
theorem slashes_append {rest : List Char} (h : rest.head? ≠ some '/') (path : List Char) :
    slashes (path ++ rest) = slashes path := by
  cases rest with
  | nil => rw [List.append_nil]
  | cons r rest =>
    have hr : r ≠ '/' := fun hslash ↦ h (congrArg some hslash)
    match path with
    | [] => simp [slashes, hr]
    | [c] => by_cases hc : c = '/' <;> simp [slashes, hc, hr]
    | [c, d] => by_cases hc : c = '/' <;> by_cases hd : d = '/' <;> simp [slashes, hc, hd, hr]
    | c :: d :: e :: more =>
      by_cases hc : c = '/' <;> by_cases hd : d = '/' <;> by_cases he : e = '/' <;>
        simp [slashes, hc, hd, he]

/-- A dot after a slash says nothing, nor does one by itself. -/
theorem normalize_append_dot {base : String}
    (h : base = "" ∨ base.toList.getLast? = some '/') :
    normalize (base ++ ".") = normalize base := by
  refine normalize_congr ?_ ?_
  · rw [String.toList_append]
    exact slashes_append (by decide) base.toList
  · rcases h with rfl | h
    · rfl
    · obtain ⟨front, hfront⟩ := List.getLast?_eq_some_iff.mp h
      rw [String.toList_append, hfront, names_append_slash, List.append_assoc]
      exact names_append_slash_dot front

/-- Seen from wherever, a dot means what the empty path means. -/
theorem normalize_join_dot (base : String) :
    normalize (join base ".") = normalize (join base "") := by
  have hdot : isAbsolute "." = false := by decide
  have hempty : isAbsolute "" = false := by decide
  rw [join, join, hdot, hempty, if_neg Bool.false_ne_true, if_neg Bool.false_ne_true]
  split_ifs with hends
  · rw [Bool.or_eq_true, String.isEmpty_iff, beq_iff_eq] at hends
    rw [normalize_append_dot hends, String.append_empty]
  · have hslash : (base ++ "/").toList.getLast? = some '/' := by
      rw [String.toList_append]
      exact List.getLast?_concat
    rw [normalize_append_dot (Or.inr hslash), String.append_empty]

/-- A normal form says something, if only that it means the directory it starts at. -/
theorem normalize_ne_empty (path : String) : normalize path ≠ "" := by
  have hnames := names_normalize path
  have hslashes := slashes_normalize path
  have hwritten := normalize_eq path
  intro hempty
  -- Nothing would be read from nothing, and that is not how nothing is written.
  rw [hempty] at hnames hslashes hwritten
  rw [← hnames, ← hslashes] at hwritten
  contradiction

/-! ## NUL characters -/

theorem hasNul_append {base path : String} (hbase : hasNul base = false)
    (hpath : hasNul path = false) : hasNul (base ++ path) = false := by
  rw [hasNul_eq_false_iff] at hbase hpath ⊢
  rw [String.toList_append, List.mem_append, not_or]
  exact ⟨hbase, hpath⟩

theorem hasNul_join {base path : String} (hbase : hasNul base = false)
    (hpath : hasNul path = false) : hasNul (join base path) = false := by
  have hslash : hasNul "/" = false := by decide
  rw [join]
  split_ifs
  · exact hpath
  · exact hasNul_append hbase hpath
  · exact hasNul_append (hasNul_append hbase hslash) hpath

theorem hasNul_normalize {path : String} (h : hasNul path = false) :
    hasNul (normalize path) = false := by
  rw [hasNul_eq_false_iff] at h ⊢
  rw [normalize, String.toList_ofList]
  intro hnul
  rcases mem_write hnul with hslash | hdot | ⟨part, hpart, hnul⟩
  · contradiction
  · contradiction
  · exact h (mem_of_mem_names (mem_of_mem_reduce hpart) hnul)

end LineShell.Path

namespace LineShell.Session

/-! ## Paths seen from a session -/

/-- Whether the directories that relative texts are seen from are absolute. -/
structure IsRooted (session : Session) : Prop where
  cwd : Path.isAbsolute session.cwd = true
  home : Path.isAbsolute session.home = true

variable {session : Session}

theorem isSettled_resolvePath (h : Path.isAbsolute session.cwd = true) (path : String) :
    Path.IsSettled (session.resolvePath path) :=
  Path.isSettled_normalize (Path.isAbsolute_join h path)

/-- **Every location means an absolute path in normal form**, seen from a rooted session. -/
theorem isSettled_expand (h : session.IsRooted) (location : String) :
    Path.IsSettled (session.expand location) := by
  rw [expand]
  split
  · exact Path.isSettled_normalize (Path.isAbsolute_join h.home _)
  · exact isSettled_resolvePath h.cwd location

/-! ## The search path -/

/-- The directory that an entry of a search path means: an absolute one itself, and any other, also
one without text, what it is seen from the working directory of the session. -/
def directoryOf (session : Session) (entry : String) : String :=
  if Path.isAbsolute entry then entry else session.resolvePath entry

theorem searchDirs_eq (session : Session) :
    session.searchDirs = session.searchPath.map session.directoryOf := rfl

theorem directoryOf_ne_empty (entry : String) : session.directoryOf entry ≠ "" := by
  rw [directoryOf]
  split_ifs with habsolute
  · rintro rfl
    contradiction
  · exact Path.normalize_ne_empty _

theorem hasNul_directoryOf (hcwd : Path.hasNul session.cwd = false) {entry : String}
    (h : Path.hasNul entry = false) : Path.hasNul (session.directoryOf entry) = false := by
  rw [directoryOf]
  split_ifs
  · exact h
  · exact Path.hasNul_normalize (Path.hasNul_join hcwd h)

theorem isAbsolute_directoryOf (h : Path.isAbsolute session.cwd = true) (entry : String) :
    Path.isAbsolute (session.directoryOf entry) = true := by
  rw [directoryOf]
  split_ifs with hentry
  · exact hentry
  · exact (isSettled_resolvePath h entry).isAbsolute

/-- A dot says no more than an entry without text. -/
theorem directoryOf_dot (session : Session) :
    session.directoryOf "." = session.directoryOf "" :=
  Path.normalize_join_dot session.cwd

theorem ne_empty_of_mem_searchDirs {directory : String} (h : directory ∈ session.searchDirs) :
    directory ≠ "" := by
  obtain ⟨entry, -, rfl⟩ := List.mem_map.mp h
  exact directoryOf_ne_empty entry

theorem hasNul_of_mem_searchDirs (hcwd : Path.hasNul session.cwd = false)
    (hsearch : ∀ entry ∈ session.searchPath, Path.hasNul entry = false) {directory : String}
    (h : directory ∈ session.searchDirs) : Path.hasNul directory = false := by
  obtain ⟨entry, hentry, rfl⟩ := List.mem_map.mp h
  exact hasNul_directoryOf hcwd (hsearch entry hentry)

theorem isAbsolute_of_mem_searchDirs (hcwd : Path.isAbsolute session.cwd = true)
    {directory : String} (h : directory ∈ session.searchDirs) :
    Path.isAbsolute directory = true := by
  obtain ⟨entry, -, rfl⟩ := List.mem_map.mp h
  exact isAbsolute_directoryOf hcwd entry

end LineShell.Session
