import LineShell.Script.Statement

/-!
# The source of a script

A script is read from front to back. The source knows what is left, the line that has been reached,
and the here-documents that were asked for on that line. A backslash at the end of a line joins it
with the next one, wherever it stands except between single quotes.

Nothing is read twice, so reading takes no more steps than there were characters at the start. That
number is the bound of every recursion of the reader.
-/

namespace LineShell.Script

/-- An operator that begins a redirection. -/
inductive RedirectSign where
  | file (opening : Opening)
  | duplicate
  /-- A here-document follows, with or without the tabs that its lines begin with. -/
  | document (keepsTabs : Bool)
  deriving DecidableEq, Repr

/-- A token of a script. -/
inductive Token where
  | word (word : Word)
  /-- A word that means something where a command could begin. -/
  | keyword (name : String)
  | newline
  | endOfFile
  /-- A sign that separates or joins commands. -/
  | sign (text : String)
  | redirect (descriptor : Nat) (sign : RedirectSign)

/-- What messages call a token. -/
def Token.name : Token → String
  | .word _ => "word"
  | .keyword name => "\"" ++ name ++ "\""
  | .newline => "newline"
  | .endOfFile => "end of file"
  | .sign text => "\"" ++ text ++ "\""
  | .redirect _ _ => "redirection"

/-- Why a script cannot be read. -/
inductive Problem where
  /-- A token stands where none of its kind may stand. -/
  | unexpected (found : String)
  /-- A token stands where another one must stand. -/
  | expected (found wanted : String)
  | openQuote
  | openBrace
  | openArithmetic
  | openBackquote
  | badFunctionName
  | badVariable
  | badDescriptor
  /-- Commands contain each other too deeply. -/
  | tooDeep
  deriving DecidableEq, Repr

/-- What the user is told. -/
def Problem.message : Problem → String
  | .unexpected found => found ++ " unexpected"
  | .expected found wanted => found ++ " unexpected (expecting " ++ wanted ++ ")"
  | .openQuote => "Unterminated quoted string"
  | .openBrace => "Missing '\x7d'"
  | .openArithmetic => "Missing '))'"
  | .openBackquote => "EOF in backquote substitution"
  | .badFunctionName => "Bad function name"
  | .badVariable => "Bad for loop variable"
  | .badDescriptor => "Bad fd number"
  | .tooDeep => "Too many levels"

/-- A problem and the line where it was found. -/
structure ReadError where
  line : Nat
  problem : Problem
  deriving DecidableEq, Repr

/-- A here-document that was asked for and has not been read yet. -/
structure Pending where
  /-- What redirections call the document. -/
  index : Nat
  /-- The line that ends the document. -/
  delimiter : String
  keepsTabs : Bool
  /-- Whether expansions in the document have no meaning. -/
  verbatim : Bool
  deriving DecidableEq, Repr

/-- What is left of a script. -/
structure Source where
  rest : List Char
  line : Nat := 1
  /-- A token that was looked at and not taken. -/
  held : Option Token := none
  /-- The documents that begin after this line, in order. -/
  pending : List Pending := []
  /-- The documents that were read. -/
  documents : List (Nat × Word) := []
  /-- The number of the next document. -/
  nextDocument : Nat := 0
  /-- What names stand for where a command could begin. -/
  aliases : List (String × String) := []
  /-- The bound of every recursion. -/
  bound : Nat := rest.length + 2

/-- What reads something from the front of a source. -/
abbrev Reader := EStateM ReadError Source

namespace Reader

/-- Stop with a problem. -/
def fail {α : Type} (problem : Problem) : Reader α := do
  throw ⟨(← get).line, problem⟩

/-! ## Characters -/

/-- What follows the line breaks that backslashes hide, and how many they were. -/
def joinLines : List Char → Nat × List Char
  | '\\' :: '\n' :: rest =>
    let (count, rest) := joinLines rest
    (count + 1, rest)
  | rest => (0, rest)

/-- The next character, which is not taken. -/
def peek : Reader (Option Char) := do
  let source ← get
  let (count, rest) := joinLines source.rest
  set { source with rest, line := source.line + count }
  return rest.head?

/-- Take the next character, whatever it is. -/
def takeAny : Reader (Option Char) := do
  let source ← get
  match source.rest with
  | [] => return none
  | c :: rest =>
    set { source with rest, line := if c == '\n' then source.line + 1 else source.line }
    return some c

/-- Take the next character. -/
def take : Reader (Option Char) := do
  discard peek
  takeAny

/-- Take the next character. A line that it ends is not counted. -/
def takeUncounted : Reader (Option Char) := do
  discard peek
  let line := (← get).line
  let c? ← takeAny
  modify fun source ↦ { source with line }
  return c?

/-- Take the next character if it is a certain one. -/
def takeIf (c : Char) : Reader Bool := do
  if (← peek) = some c then
    discard take
    return true
  else return false

/-- Take characters as long as they are of a kind. -/
def takeWhile (isWanted : Char → Bool) : Reader (List Char) := do
  go isWanted (← get).bound []
where
  /-- Take characters, at most so many, after those in a reversed list. -/
  go (isWanted : Char → Bool) : Nat → List Char → Reader (List Char)
    | 0, taken => return taken.reverse
    | steps + 1, taken => do
      match ← peek with
      | some c =>
        if isWanted c then
          discard take
          go isWanted steps (c :: taken)
        else return taken.reverse
      | none => return taken.reverse

/-- Read a text by itself, whose lines are counted from one, and go on as before. -/
def within {α : Type} (text : List Char) (reader : Reader α) : Reader α := do
  let source ← get
  let bound := text.length + 2
  set { source with rest := text, line := 1, held := none, pending := [], bound }
  let value ← reader
  let after ← get
  set { source with documents := after.documents, nextDocument := after.nextDocument }
  return value

end Reader

end LineShell.Script
