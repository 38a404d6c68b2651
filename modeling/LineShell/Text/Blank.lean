import LineShell.Text.CharClass

/-!
# Blanks

Blanks separate the words of a line where a line is read by words: when its first word is
completed, and when the text of a setting is trimmed. The class holds the control characters and
the spaces of every script that count as white space; the tokenizer of the shell does not use it,
since there only the plain space separates.
-/

namespace LineShell.Text

/-- The blank characters. -/
def blanks : CharClass :=
  [(0x09, 0x0D), (0x1C, 0x20), (0x85, 0x85), (0xA0, 0xA0), (0x1680, 0x1680), (0x2000, 0x200A),
    (0x2028, 0x2029), (0x202F, 0x202F), (0x205F, 0x205F), (0x3000, 0x3000)]

/-- Whether a character is a blank. -/
def isBlank (c : Char) : Bool :=
  blanks.has c

/-- Every character that is white space in ASCII is a blank. -/
theorem isBlank_of_isWhitespace {c : Char} (h : c.isWhitespace = true) : isBlank c = true := by
  simp only [Char.isWhitespace, Bool.or_eq_true, decide_eq_true_eq] at h
  rcases h with ((rfl | rfl) | rfl) | rfl <;> decide

/-! ## Words and trimming -/

/-- The characters that are left when a class is dropped from both ends. -/
def trimOf (p : Char → Bool) (cs : List Char) : List Char :=
  ((cs.dropWhile p).reverse.dropWhile p).reverse

/-- A text without the blanks at its ends. -/
def trim (cs : List Char) : List Char :=
  trimOf isBlank cs

/-- The first word: what stands between the blanks at the start and the next blank. -/
def firstWord (cs : List Char) : List Char :=
  (cs.dropWhile isBlank).takeWhile fun c ↦ !isBlank c

/-- A first word holds no blank. -/
theorem isBlank_eq_false_of_mem_firstWord {cs : List Char} {c : Char} (h : c ∈ firstWord cs) :
    isBlank c = false := by
  have hall : (firstWord cs).all (fun c ↦ !isBlank c) = true := List.all_takeWhile
  simpa using List.all_eq_true.mp hall c h

end LineShell.Text
