/-!
# Tokens of a command line

A line is cut into tokens at its unquoted spaces. Three quotings are known: a backslash outside
quotes takes the next character as it is, single quotes take everything between them as it is, and
double quotes do so too, except that a backslash in them escapes a backslash, a dollar sign, a
double quote or a line feed. Quotes that are never closed end with the line.

The tokenizer is an automaton that reads one character at a time, so that tokenizing a text in two
parts is running on from the state the first part leaves (`Tokenizer.run_append`). A backslash is
remembered in the state instead of looking ahead to the character it applies to.
-/

namespace LineShell

/-- The quotes that a place in a line stands in. -/
inductive Quoting where
  | none
  | single
  | double
  deriving DecidableEq, Repr

/-- The state of the tokenizer between two characters. -/
structure Tokenizer where
  /-- The quotes that are open. -/
  quoting : Quoting := .none
  /-- Whether the character before was a backslash that may escape the next one. -/
  escaping : Bool := false
  /-- The token that is being read. -/
  word : String := ""
  /-- The tokens that are complete, in order. -/
  tokens : List String := []
  deriving DecidableEq, Repr

namespace Tokenizer

/-- The characters that a backslash escapes between double quotes. -/
def doubleQuoteEscapes : List Char :=
  ['\\', '$', '"', '\n']

/-- Add a character to the token that is being read. -/
def push (t : Tokenizer) (c : Char) : Tokenizer :=
  { t with word := t.word.push c }

/-- End the token that is being read. A token without characters is no token. -/
def flush (t : Tokenizer) : Tokenizer :=
  if t.word.isEmpty then t else { t with word := "", tokens := t.tokens ++ [t.word] }

/-- Read a character that no backslash escapes. -/
def readPlain (t : Tokenizer) (c : Char) : Tokenizer :=
  match t.quoting, c with
  | .none, '\\' => { t with escaping := true }
  | .none, '"' => { t with quoting := .double }
  | .none, '\'' => { t with quoting := .single }
  | .none, ' ' => t.flush
  | .single, '\'' => { t with quoting := .none }
  | .double, '\\' => { t with escaping := true }
  | .double, '"' => { t with quoting := .none }
  | _, c => t.push c

/-- Read the character after a backslash. Between double quotes a backslash that escapes nothing
stands for itself. -/
def readEscaped (t : Tokenizer) (c : Char) : Tokenizer :=
  let t := { t with escaping := false }
  if t.quoting = .double ∧ c ∉ doubleQuoteEscapes then (t.push '\\').push c else t.push c

/-- Read one character. -/
def step (t : Tokenizer) (c : Char) : Tokenizer :=
  if t.escaping then t.readEscaped c else t.readPlain c

/-- Read a text. -/
def run (t : Tokenizer) (cs : List Char) : Tokenizer :=
  cs.foldl step t

/-- Close a line. A backslash at its end stands for itself between double quotes and for nothing
outside of quotes. -/
def finish (t : Tokenizer) : Tokenizer :=
  let closed := { t with escaping := false }
  if t.escaping && t.quoting == .double then (closed.push '\\').flush else closed.flush

@[simp] theorem run_nil (t : Tokenizer) : t.run [] = t := rfl

@[simp] theorem run_cons (t : Tokenizer) (c : Char) (cs : List Char) :
    t.run (c :: cs) = (t.step c).run cs := rfl

/-- Reading a text in two parts is running on from where the first part ends. -/
theorem run_append (t : Tokenizer) (xs ys : List Char) : t.run (xs ++ ys) = (t.run xs).run ys :=
  List.foldl_append

end Tokenizer

/-- The state of the tokenizer at the end of a line: its tokens and the quotes left open. -/
def tokenized (line : String) : Tokenizer :=
  (Tokenizer.run {} line.toList).finish

/-- The tokens of a line. -/
def tokenize (line : String) : List String :=
  (tokenized line).tokens

end LineShell
