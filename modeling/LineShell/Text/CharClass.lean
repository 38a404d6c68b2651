/-!
# Classes of characters

A class of characters is a finite list of closed ranges of code points. Every table of the library
(blanks, line breaks, characters that print) is such a list, so that a table can be read against
the standard it was taken from, and membership is one executable function for all of them.
-/

namespace LineShell

/-- A class of characters: closed ranges of code points. -/
abbrev CharClass := List (Nat × Nat)

/-- Whether a character lies in one of the ranges. -/
def CharClass.has (ranges : CharClass) (c : Char) : Bool :=
  ranges.any fun range ↦ range.1 ≤ c.toNat && c.toNat ≤ range.2

theorem CharClass.has_iff {ranges : CharClass} {c : Char} :
    ranges.has c = true ↔ ∃ range ∈ ranges, range.1 ≤ c.toNat ∧ c.toNat ≤ range.2 := by
  simp [CharClass.has, List.any_eq_true]

end LineShell
