import LineShell.Text.CharClass

/-!
# Lines of a text

A text is cut into lines at every line break. A carriage return directly before a line feed makes
one break with it; a text that ends in a break has no further, empty line after it. The breaks are
not only the line feed: vertical tab, form feed, the information separators, next line and the line
and paragraph separators break a line too.
-/

namespace LineShell.Text

/-- The characters that end a line. -/
def lineBreaks : CharClass :=
  [(0x0A, 0x0D), (0x1C, 0x1E), (0x85, 0x85), (0x2028, 0x2029)]

/-- Whether a character ends a line. -/
def isLineBreak (c : Char) : Bool :=
  lineBreaks.has c

/-- Put a character in front of the first line. -/
def consFirst (c : Char) : List (List Char) → List (List Char)
  | [] => [[c]]
  | line :: rest => (c :: line) :: rest

/-- The lines of a text, without their breaks. -/
def lines : List Char → List (List Char)
  | [] => []
  | '\r' :: '\n' :: rest => [] :: lines rest
  | c :: rest => if isLineBreak c then [] :: lines rest else consFirst c (lines rest)

@[simp] theorem lines_nil : lines [] = [] := rfl

theorem consFirst_ne_nil (c : Char) (rest : List (List Char)) : consFirst c rest ≠ [] := by
  cases rest <;> exact List.cons_ne_nil _ _

theorem consFirst_append (c : Char) {first : List (List Char)} (h : first ≠ [])
    (rest : List (List Char)) : consFirst c (first ++ rest) = consFirst c first ++ rest := by
  cases first with
  | nil => contradiction
  | cons line more => rfl

/-- A break that does not begin a pair ends the line before it. -/
theorem lines_cons_of_break {c : Char} {rest : List Char} (h : isLineBreak c = true)
    (hpair : c = '\r' → rest.head? ≠ some '\n') : lines (c :: rest) = [] :: lines rest := by
  rw [lines.eq_3, if_pos h]
  rintro tail rfl rfl
  exact hpair rfl rfl

theorem lines_cons_of_not_break {c : Char} {rest : List Char} (h : isLineBreak c = false) :
    lines (c :: rest) = consFirst c (lines rest) := by
  rw [lines.eq_3]
  · simp [h]
  · rintro tail rfl
    exact absurd h (by decide)

/-- Only the empty text has no lines. -/
theorem lines_eq_nil_iff {cs : List Char} : lines cs = [] ↔ cs = [] := by
  refine ⟨fun h ↦ ?_, fun h ↦ h ▸ rfl⟩
  induction cs using lines.induct with
  | case1 => rfl
  | case2 rest ih => cases h
  | case3 c rest hpair hbreak ih =>
    rw [lines.eq_3 _ _ hpair, if_pos hbreak] at h
    cases h
  | case4 c rest hpair hbreak ih =>
    rw [lines.eq_3 _ _ hpair, if_neg hbreak] at h
    exact absurd h (consFirst_ne_nil c _)

/-- A text without breaks is one line, unless it is empty. -/
theorem lines_of_forall_not_break {cs : List Char} (h : ∀ c ∈ cs, isLineBreak c = false)
    (hne : cs ≠ []) : lines cs = [cs] := by
  induction cs with
  | nil => exact absurd rfl hne
  | cons c rest ih =>
    rw [lines_cons_of_not_break (h c List.mem_cons_self)]
    cases rest with
    | nil => rfl
    | cons next rest =>
      rw [ih (fun d hd ↦ h d (List.mem_cons_of_mem c hd)) (List.cons_ne_nil _ _)]
      rfl

/-- **Lines at a seam.** Two texts with a line feed between them have the lines of the first and
then those of the second, with an empty line between them if no line of the first was left open. -/
theorem exists_lines_append_newline (xs ys : List Char) :
    ∃ gap, lines (xs ++ '\n' :: ys) = lines xs ++ List.replicate gap [] ++ lines ys := by
  have hfeed : isLineBreak '\n' = true := by decide
  induction xs using lines.induct with
  | case1 => exact ⟨1, lines_cons_of_break hfeed fun h ↦ absurd h (by decide)⟩
  | case2 rest ih =>
    obtain ⟨gap, hgap⟩ := ih
    exact ⟨gap, congrArg ([] :: ·) hgap⟩
  | case3 c rest hpair hbreak ih =>
    by_cases hseam : c = '\r' ∧ rest = []
    · -- The return at the end makes one break with the line feed.
      obtain ⟨rfl, rfl⟩ := hseam
      exact ⟨0, rfl⟩
    · obtain ⟨gap, hgap⟩ := ih
      refine ⟨gap, ?_⟩
      rw [lines.eq_3 _ _ hpair, if_pos hbreak, List.cons_append, lines_cons_of_break hbreak, hgap]
      · rfl
      · rintro rfl hhead
        cases rest with
        | nil => exact hseam ⟨rfl, rfl⟩
        | cons next more => exact hpair more rfl (by simpa using hhead)
  | case4 c rest hpair hbreak ih =>
    have hplain : isLineBreak c = false := by simpa using hbreak
    rw [List.cons_append, lines_cons_of_not_break hplain, lines_cons_of_not_break hplain]
    cases rest with
    | nil =>
      refine ⟨0, ?_⟩
      rw [List.nil_append, lines_cons_of_break hfeed fun h ↦ absurd h (by decide)]
      rfl
    | cons next more =>
      -- The line that the character belongs to is a line of the first text.
      obtain ⟨gap, hgap⟩ := ih
      have hlines : lines (next :: more) ≠ [] := mt lines_eq_nil_iff.mp (List.cons_ne_nil _ _)
      refine ⟨gap, ?_⟩
      rw [hgap, List.append_assoc, consFirst_append c hlines, List.append_assoc]

end LineShell.Text
