/-!
# Capitals

The capital of a character, as far as it is written in ASCII. Besides the letters `a` to `z` these
are the dotless i, the long s, and the letters and ligatures whose capital is more than one letter.
A character whose capital lies outside ASCII stays as it is: the texts that are compared after
capitalising (names of levels) hold ASCII letters only, so it could not become part of one.
-/

namespace LineShell.Text

/-- The capital of a character, where ASCII has it. -/
def capital (c : Char) : List Char :=
  match c with
  | 'ı' => ['I']
  | 'ſ' => ['S']
  | 'ß' => ['S', 'S']
  | 'ﬀ' => ['F', 'F']
  | 'ﬁ' => ['F', 'I']
  | 'ﬂ' => ['F', 'L']
  | 'ﬃ' => ['F', 'F', 'I']
  | 'ﬄ' => ['F', 'F', 'L']
  | 'ﬅ' => ['S', 'T']
  | 'ﬆ' => ['S', 'T']
  | c => [c.toUpper]

/-- A text in capitals. -/
def capitals (cs : List Char) : List Char :=
  cs.flatMap capital

@[simp] theorem capitals_append (xs ys : List Char) :
    capitals (xs ++ ys) = capitals xs ++ capitals ys := by
  simp [capitals]

end LineShell.Text
