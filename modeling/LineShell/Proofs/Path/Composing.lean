import LineShell.Proofs.Path.Normalizing
import Mathlib.Data.List.Basic
import Mathlib.Data.List.TakeWhile

/-!
# Paths seen from paths

A path may be seen from another, and the two together from a third. It does not matter which two
are joined first (`Path.join_assoc`), nor whether the first one is brought into normal form before
another is joined to it (`Path.normalize_join_normalize`), although normalizing takes names away
that a later `..` would have taken otherwise. So moving along two paths, one after the other, leads
where moving along both at once does.

The same holds of the locations that a user gives, where a tilde in front stands for the home
directory (`Session.expand_join`): a tilde at the front of a location is still at the front when
another one is joined to it, and slashes after it do not count in either case.
-/

namespace LineShell.Path

/-! ## Joining -/

/-- What stands between a path and another one that is joined to it. -/
def gap (base : String) : String :=
  if base = "" ∨ base.toList.getLast? = some '/' then "" else "/"

theorem join_of_isAbsolute {path : String} (h : isAbsolute path = true) (base : String) :
    join base path = path := by
  rw [join, if_pos h]

theorem join_of_relative {path : String} (h : isAbsolute path = false) (base : String) :
    join base path = base ++ gap base ++ path := by
  have hends : (base.isEmpty || base.toList.getLast? == some '/') = true ↔
      base = "" ∨ base.toList.getLast? = some '/' := by
    rw [Bool.or_eq_true, String.isEmpty_iff, beq_iff_eq]
  rw [join, h, if_neg Bool.false_ne_true, gap]
  simp only [hends]
  split_ifs
  · rw [String.append_empty]
  · rfl

/-- Whether a slash is missing is seen at the last part. -/
theorem gap_append {path : String} (h : path ≠ "") (base : String) :
    gap (base ++ path) = gap path := by
  have hlast : (base ++ path).toList.getLast? = path.toList.getLast? := by
    rw [String.toList_append, List.getLast?_append_of_ne_nil _ (mt String.toList_eq_nil_iff.mp h)]
  have hne : base ++ path ≠ "" := fun hempty ↦ h (String.append_eq_empty_iff.mp hempty).2
  rw [gap, gap, hlast]
  simp only [h, hne]

theorem gap_append_gap (base : String) : gap (base ++ gap base) = "" := by
  by_cases h : base = "" ∨ base.toList.getLast? = some '/'
  · have hgap : gap base = "" := if_pos h
    rw [hgap, String.append_empty, hgap]
  · have hgap : gap base = "/" := if_neg h
    rw [hgap, gap_append (by decide)]
    decide

/-- No slash is missing after what is joined to a path unless it is missing by itself. -/
theorem gap_joined (base path : String) : gap (base ++ gap base ++ path) = gap path := by
  by_cases h : path = ""
  · rw [h, String.append_empty, gap_append_gap]
    rfl
  · exact gap_append h _

theorem isAbsolute_joined {base path : String} (hbase : isAbsolute base = false)
    (hpath : isAbsolute path = false) : isAbsolute (base ++ gap base ++ path) = false := by
  by_cases h : base = ""
  · subst h
    exact hpath
  · obtain ⟨c, rest, hchars⟩ := List.exists_cons_of_ne_nil (mt String.toList_eq_nil_iff.mp h)
    rw [isAbsolute, hchars] at hbase
    rw [isAbsolute, String.toList_append, String.toList_append, hchars]
    exact hbase

/-- **Joining is associative.** -/
theorem join_assoc (base first second : String) :
    join (join base first) second = join base (join first second) := by
  cases hsecond : isAbsolute second with
  | true => rw [join_of_isAbsolute hsecond, join_of_isAbsolute hsecond, join_of_isAbsolute hsecond]
  | false =>
    cases hfirst : isAbsolute first with
    | true =>
      rw [join_of_isAbsolute hfirst, join_of_isAbsolute (isAbsolute_join hfirst second)]
    | false =>
      rw [join_of_relative hsecond, join_of_relative hfirst, join_of_relative hsecond,
        join_of_relative (isAbsolute_joined hfirst hsecond), gap_joined]
      simp only [String.append_assoc]

/-! ## Joining to a normal form -/

theorem head?_ne_slash {path : String} (h : isAbsolute path = false) :
    path.toList.head? ≠ some '/' := by
  intro hslash
  rw [isAbsolute, hslash] at h
  contradiction

/-- The names of paths that are joined are those of the first and then those of the second. -/
theorem names_join {path : String} (h : isAbsolute path = false) (base : String) :
    names (join base path).toList = names base.toList ++ names path.toList := by
  rw [join_of_relative h, String.toList_append, String.toList_append]
  by_cases hends : base = "" ∨ base.toList.getLast? = some '/'
  · rw [gap, if_pos hends, String.toList_empty, List.append_nil]
    rcases hends with rfl | hlast
    · rfl
    · obtain ⟨front, hfront⟩ := List.getLast?_eq_some_iff.mp hlast
      rw [hfront, names_append_slash, List.append_assoc]
      exact names_append_slash_append front path.toList
  · rw [gap, if_neg hends, List.append_assoc]
    exact names_append_slash_append base.toList path.toList

/-- The slashes in front are those of the first. -/
theorem slashes_join {base path : String} (hbase : isAbsolute base = true)
    (hpath : isAbsolute path = false) :
    slashes (join base path).toList = slashes base.toList := by
  rw [join_of_relative hpath, String.toList_append, slashes_append (head?_ne_slash hpath),
    String.toList_append]
  rw [isAbsolute, beq_iff_eq] at hbase
  by_cases hends : base = "" ∨ base.toList.getLast? = some '/'
  · rw [gap, if_pos hends, String.toList_empty, List.append_nil]
  · rw [gap, if_neg hends]
    exact slashes_append_slash hbase fun hlast ↦ hends (Or.inr hlast)

/-- Names that were reduced before others came after them reduce to the same. -/
theorem reduce_reduce_append (rooted : Bool) (first second : List (List Char)) :
    reduce rooted (reduce rooted first ++ second) = reduce rooted (first ++ second) := by
  have hstack : Reduced rooted (first.foldl (pushName rooted) []) :=
    Reduced.nil.foldl_pushName first
  rw [reduce, reduce, reduce, List.foldl_append, List.foldl_append, hstack.foldl_reverse]

/-- **What is seen from a normal form** is what is seen from the path that it was made of. -/
theorem normalize_join_normalize {base : String} (hbase : isAbsolute base = true) (path : String) :
    normalize (join (normalize base) path) = normalize (join base path) := by
  cases hpath : isAbsolute path with
  | true => rw [join_of_isAbsolute hpath, join_of_isAbsolute hpath]
  | false =>
    have hnormal : isAbsolute (normalize base) = true := isAbsolute_normalize hbase
    rw [normalize_eq, slashes_join hnormal hpath, names_join hpath, slashes_normalize,
      names_normalize, reduce_reduce_append, ← names_join hpath, ← slashes_join hbase hpath,
      ← normalize_eq]

end LineShell.Path

namespace LineShell.Session

/-! ## Locations -/

/-- What a location names below the home directory, from what it has after a tilde. -/
def belowHome (rest : List Char) : String :=
  String.ofList (rest.dropWhile (· == '/'))

variable {session : Session}

theorem expand_of_tilde {location : String} {rest : List Char}
    (h : location.toList = '~' :: rest) :
    session.expand location = Path.normalize (Path.join session.home (belowHome rest)) := by
  rw [expand, h]
  rfl

theorem expand_of_not_tilde {location : String} (h : location.toList.head? ≠ some '~') :
    session.expand location = session.resolvePath location := by
  rw [expand]
  split
  · next hchars =>
    rw [hchars] at h
    contradiction
  · rfl

/-- An absolute location means its own normal form. -/
theorem expand_of_isAbsolute {location : String} (h : Path.isAbsolute location = true) :
    session.expand location = Path.normalize location := by
  rw [expand_of_not_tilde, resolvePath, Path.join_of_isAbsolute h]
  rw [Path.isAbsolute, beq_iff_eq] at h
  rw [h]
  decide

/-- Nothing but slashes stands between what is joined. -/
theorem belowHome_gap_append (base : String) {path : String}
    (h : Path.isAbsolute path = false) :
    belowHome ((Path.gap base).toList ++ path.toList) = path := by
  have hgap : ∀ c ∈ (Path.gap base).toList, (c == '/') = true := by
    intro c hc
    rw [Path.gap] at hc
    split_ifs at hc
    · contradiction
    · rw [List.mem_singleton.mp hc]
      rfl
  have hpath : path.toList.dropWhile (· == '/') = path.toList := by
    cases hchars : path.toList with
    | nil => rfl
    | cons c rest =>
      have hc : c ≠ '/' := by
        rintro rfl
        exact Path.head?_ne_slash h (by rw [hchars]; rfl)
      rw [List.dropWhile_cons_of_neg (by simpa using hc)]
  rw [belowHome, List.dropWhile_append_of_pos hgap, hpath, String.ofList_toList]

/-- What is joined to a location with a tilde in front is joined to what it names below the home
directory. -/
theorem belowHome_join {location path : String} {rest : List Char}
    (h : location.toList = '~' :: rest) (hpath : Path.isAbsolute path = false) :
    ∃ more, (Path.join location path).toList = '~' :: more ∧
      belowHome more = Path.join (belowHome rest) path := by
  refine ⟨rest ++ ((Path.gap location).toList ++ path.toList), ?_, ?_⟩
  · rw [Path.join_of_relative hpath, String.toList_append, String.toList_append, h,
      List.append_assoc]
    rfl
  · rw [Path.join_of_relative hpath]
    by_cases hbelow : belowHome rest = ""
    · -- Only slashes come after the tilde, and one that is missing does not matter.
      have hslashes : ∀ c ∈ rest, (c == '/') = true := by
        rw [belowHome, String.ofList_eq_empty_iff] at hbelow
        exact List.dropWhile_eq_nil_iff.mp hbelow
      rw [hbelow, belowHome, List.dropWhile_append_of_pos hslashes, ← belowHome,
        belowHome_gap_append location hpath]
      rfl
    · have hgap : Path.gap location = Path.gap (belowHome rest) := by
        have hsplit : location
            = String.ofList ('~' :: rest.takeWhile (· == '/')) ++ belowHome rest := by
          rw [belowHome, ← String.ofList_append, List.cons_append,
            List.takeWhile_append_dropWhile, ← h, String.ofList_toList]
        exact (congrArg Path.gap hsplit).trans (Path.gap_append hbelow _)
      have hrest : (rest.dropWhile (· == '/')).isEmpty = false := by
        rw [List.isEmpty_eq_false_iff]
        exact mt String.ofList_eq_empty_iff.mpr hbelow
      rw [← hgap, belowHome, List.dropWhile_append, hrest, if_neg Bool.false_ne_true,
        String.ofList_append, String.ofList_append, ← belowHome, String.ofList_toList,
        String.ofList_toList, String.append_assoc]

theorem head?_join_ne_tilde {first second : String} (hfirst : first.toList.head? ≠ some '~')
    (hsecond : second.toList.head? ≠ some '~') :
    (Path.join first second).toList.head? ≠ some '~' := by
  cases habsolute : Path.isAbsolute second with
  | true => rwa [Path.join_of_isAbsolute habsolute]
  | false =>
    rw [Path.join_of_relative habsolute]
    by_cases hempty : first = ""
    · subst hempty
      exact hsecond
    · obtain ⟨c, rest, hchars⟩ :=
        List.exists_cons_of_ne_nil (mt String.toList_eq_nil_iff.mp hempty)
      rw [hchars] at hfirst
      rw [String.toList_append, String.toList_append, hchars]
      exact hfirst

/-- **Locations compose.** Where a location leads from where another one led is where the two,
joined to one, lead from the start. -/
theorem expand_join (h : session.IsRooted) {first second : String}
    (hsecond : second.toList.head? ≠ some '~') :
    { session with cwd := session.expand first }.expand second
      = session.expand (Path.join first second) := by
  cases habsolute : Path.isAbsolute second with
  | true =>
    rw [expand_of_isAbsolute habsolute, Path.join_of_isAbsolute habsolute,
      expand_of_isAbsolute habsolute]
  | false =>
    rw [expand_of_not_tilde hsecond, resolvePath]
    dsimp only
    by_cases htilde : first.toList.head? = some '~'
    · obtain ⟨rest, hrest⟩ := List.head?_eq_some_iff.mp htilde
      obtain ⟨more, hmore, hbelow⟩ := belowHome_join hrest habsolute
      rw [expand_of_tilde hrest, expand_of_tilde hmore, hbelow, ← Path.join_assoc,
        Path.normalize_join_normalize (Path.isAbsolute_join h.home _)]
    · have hjoined := head?_join_ne_tilde htilde hsecond
      rw [expand_of_not_tilde htilde, expand_of_not_tilde hjoined, resolvePath, resolvePath,
        ← Path.join_assoc, Path.normalize_join_normalize (Path.isAbsolute_join h.cwd _)]

end LineShell.Session
