import LineShell.FileTree.Walk
import Mathlib.Tactic.SplitIfs

/-!
# Anchored paths

A redirection target is named by a path that is seen from a directory. The anchored path consists of
characters of the two and of slashes and dots, and it is absolute if the directory is; then it leads
to the same place whatever the working directory of the process is.
-/

namespace LineShell.Path

/-! ## Characters of anchored paths -/

theorem mem_of_mem_split {separator c : Char} {cs piece : List Char}
    (hpiece : piece ∈ split separator cs) (hc : c ∈ piece) : c ∈ cs := by
  induction cs generalizing piece with
  | nil =>
    rw [split, List.mem_singleton] at hpiece
    rwa [hpiece] at hc
  | cons d cs ih =>
    rw [split] at hpiece
    split_ifs at hpiece with hd
    · rcases List.mem_cons.mp hpiece with rfl | hpiece
      · contradiction
      · exact List.mem_cons_of_mem d (ih hpiece hc)
    · cases hsplit : split separator cs with
      | nil => exact absurd hsplit (split_ne_nil separator cs)
      | cons first rest =>
        rw [hsplit] at hpiece
        rcases List.mem_cons.mp hpiece with rfl | hpiece
        · rcases List.mem_cons.mp hc with rfl | hc
          · exact List.mem_cons_self
          · exact List.mem_cons_of_mem d (ih (hsplit ▸ List.mem_cons_self) hc)
        · exact List.mem_cons_of_mem d (ih (hsplit ▸ List.mem_cons_of_mem first hpiece) hc)

theorem mem_of_mem_names {c : Char} {cs name : List Char} (hname : name ∈ names cs)
    (hc : c ∈ name) : c ∈ cs :=
  mem_of_mem_split (List.mem_filter.mp hname).1 hc

theorem mem_intercalate {c separator : Char} {parts : List (List Char)}
    (h : c ∈ [separator].intercalate parts) : c = separator ∨ ∃ part ∈ parts, c ∈ part := by
  induction parts with
  | nil => contradiction
  | cons first rest ih =>
    cases rest with
    | nil =>
      rw [List.intercalate_singleton] at h
      exact Or.inr ⟨first, List.mem_cons_self, h⟩
    | cons second rest =>
      rw [List.intercalate_cons_cons, List.append_assoc] at h
      rcases List.mem_append.mp h with h | h
      · exact Or.inr ⟨first, List.mem_cons_self, h⟩
      rcases List.mem_append.mp h with h | h
      · exact Or.inl (List.mem_singleton.mp h)
      rcases ih h with h | ⟨part, hpart, hc⟩
      · exact Or.inl h
      · exact Or.inr ⟨part, List.mem_cons_of_mem first hpart, hc⟩

/-- A written path consists of the characters of its names, of slashes and of dots. -/
theorem mem_write {c : Char} {count : Nat} {parts : List (List Char)} (h : c ∈ write count parts) :
    c = '/' ∨ c = '.' ∨ ∃ part ∈ parts, c ∈ part := by
  rw [write] at h
  split_ifs at h
  · exact Or.inr (Or.inl (List.mem_singleton.mp h))
  · rcases List.mem_append.mp h with h | h
    · exact Or.inl (List.eq_of_mem_replicate h)
    · rcases mem_intercalate h with h | h
      · exact Or.inl h
      · exact Or.inr (Or.inr h)

theorem hasNul_eq_false_iff {path : String} : hasNul path = false ↔ '\x00' ∉ path.toList := by
  rw [hasNul, List.contains_eq_mem, decide_eq_false_iff_not]

/-- An anchored path holds a NUL character only if one of its parts does. -/
theorem hasNul_anchor {directory path : String} (hdirectory : hasNul directory = false)
    (hpath : hasNul path = false) : hasNul (anchor directory path) = false := by
  rw [hasNul_eq_false_iff] at hdirectory hpath ⊢
  rw [anchor, String.toList_ofList]
  intro h
  split_ifs at h <;> rcases mem_write h with h | h | ⟨part, hpart, h⟩
  · contradiction
  · contradiction
  · exact hpath (mem_of_mem_names hpart h)
  · contradiction
  · contradiction
  · rcases List.mem_append.mp hpart with hpart | hpart
    · exact hdirectory (mem_of_mem_names hpart h)
    · exact hpath (mem_of_mem_names hpart h)

/-! ## Absolute paths -/

theorem slashes_ne_zero {cs : List Char} (h : cs.head? = some '/') : slashes cs ≠ 0 := by
  cases cs with
  | nil => contradiction
  | cons c cs =>
    obtain rfl := Option.some.inj h
    unfold slashes
    split <;> simp_all

theorem head?_write {count : Nat} (h : count ≠ 0) (parts : List (List Char)) :
    (write count parts).head? = some '/' := by
  rw [write, if_neg (fun hboth ↦ h hboth.1)]
  cases count with
  | zero => contradiction
  | succ count => rfl

theorem isAbsolute_anchor {directory : String} (h : isAbsolute directory = true) (path : String) :
    isAbsolute (anchor directory path) = true := by
  rw [isAbsolute, beq_iff_eq, anchor, String.toList_ofList]
  rw [isAbsolute, beq_iff_eq] at h
  split_ifs with hpath
  · rw [isAbsolute, beq_iff_eq] at hpath
    exact head?_write (slashes_ne_zero hpath) _
  · exact head?_write (slashes_ne_zero h) _

end LineShell.Path

namespace LineShell.FileTree

/-- An absolute path leads to the same place from everywhere. -/
theorem locate_of_isAbsolute {path : String} (h : Path.isAbsolute path = true) (tree : FileTree)
    (here there : Place) (purpose : Purpose) :
    tree.locate here path purpose = tree.locate there path purpose := by
  rw [locate, locate, origin, origin, if_pos h, if_pos h]

end LineShell.FileTree
