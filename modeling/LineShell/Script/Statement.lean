/-!
# Statements of a script

What a script says. Commands are put together in sequence, under conditions and in loops; a simple
command is made of words, and a word of pieces: plain characters, quoted texts, and expansions whose
value is known only when the script runs. An expansion may hold words and whole lists of commands
again, so all of these are one family of types.

Quoting does not remain as characters. Each piece remembers whether it was quoted, since a quoted
expansion is never split and a quoted keyword is no keyword.

The text of a here-document stands after the line that asks for it. A redirection therefore refers
to it by a number.
-/

namespace LineShell.Script

/-- What a redirection opens its file for. -/
inductive Opening where
  | input
  | truncate
  /-- A file is emptied even if it is protected. -/
  | overwrite
  | append
  | update
  deriving DecidableEq, Repr

mutual

/-- A piece of a word. -/
inductive Piece where
  | literal (text : String) (quoted : Bool)
  /-- What becomes of the value of a parameter or variable. -/
  | parameter (name : String) (use : Use) (quoted : Bool)
  /-- What a list of commands writes. -/
  | command (body : Statement) (quoted : Bool)
  /-- The value of an arithmetic expression. -/
  | arithmetic (expression : List Piece) (quoted : Bool)

/-- What is done with the value of a parameter. Some uses treat an empty value like a missing
one. -/
inductive Use where
  | value
  | length
  /-- Nothing that has a meaning. -/
  | invalid
  /-- Take a word where the value is missing. -/
  | default (orEmpty : Bool) (word : List Piece)
  /-- Set the parameter to a word where the value is missing. -/
  | assign (orEmpty : Bool) (word : List Piece)
  /-- Stop with a message where the value is missing. -/
  | demand (orEmpty : Bool) (word : List Piece)
  /-- Take a word where the value is not missing. -/
  | instead (orEmpty : Bool) (word : List Piece)
  /-- Cut off what a pattern fits at an end of the value. -/
  | trim (atEnd longest : Bool) (pattern : List Piece)

/-- A redirection of a descriptor. -/
inductive Redirect where
  | file (descriptor : Nat) (opening : Opening) (target : List Piece)
  /-- The descriptor leads where another one leads, or nowhere. -/
  | duplicate (descriptor : Nat) (target : List Piece)
  /-- The descriptor reads a here-document. -/
  | document (descriptor index : Nat)

/-- A statement. -/
inductive Statement where
  | nothing
  /-- What is assigned, what is called, and where descriptors lead. -/
  | simple (line : Nat) (assignments : List (String × List Piece)) (words : List (List Piece))
      (redirects : List Redirect)
  | sequence (first second : Statement)
  /-- The second one runs if the first succeeds. -/
  | both (first second : Statement)
  /-- The second one runs if the first fails. -/
  | either (first second : Statement)
  | negated (body : Statement)
  /-- Each one reads what the one before it writes. -/
  | pipeline (stages : List Statement)
  | background (body : Statement)
  | subshell (line : Nat) (body : Statement) (redirects : List Redirect)
  | redirected (line : Nat) (body : Statement) (redirects : List Redirect)
  | conditional (test yes no : Statement)
  /-- The body runs as long as the test ends as wanted. -/
  | loop (wanted : Bool) (test body : Statement)
  /-- The body runs for each field of the items. -/
  | each (line : Nat) (name : String) (items : List (List Piece)) (body : Statement)
  /-- The first clause with a pattern that fits the subject runs. -/
  | choice (line : Nat) (subject : List Piece) (clauses : List (List (List Piece) × Statement))
  /-- The body runs when the name is called. -/
  | function (line : Nat) (name : String) (body : Statement)

end

/-- A word: its pieces in order. -/
abbrev Word := List Piece

namespace Word

/-- The text of a word that has neither quotes nor expansions. -/
def plain? : Word → Option String
  | [] => some ""
  | .literal text false :: rest => (plain? rest).map (text ++ ·)
  | _ :: _ => none

/-- Put a piece in front of a reversed word. Literals that go on in the same way become one. -/
def push (reversed : Word) (piece : Piece) : Word :=
  match piece, reversed with
  | .literal text quoted, .literal before quotedBefore :: rest =>
    if quoted = quotedBefore then .literal (before ++ text) quoted :: rest
    else piece :: reversed
  | _, _ => piece :: reversed

end Word

/-! ## Names -/

/-- Whether a variable's name may begin with a character. -/
def isNameStart (c : Char) : Bool :=
  c.isAlpha || c == '_'

/-- Whether a character may stand in the name of a variable. -/
def isNameChar (c : Char) : Bool :=
  c.isAlphanum || c == '_'

/-- Whether a text is a name for a variable. -/
def isName (text : String) : Bool :=
  match text.toList with
  | [] => false
  | c :: rest => isNameStart c && rest.all isNameChar

/-- The parameters with a name of one character that is no letter. -/
def isSpecial (c : Char) : Bool :=
  c.isDigit || c ∈ ['@', '*', '#', '?', '$', '!', '-']

/-- The variable that a word assigns to, and the word of its value. -/
def Word.assignment? (word : Word) : Option (String × Word) :=
  match word with
  | .literal text false :: rest =>
    let name := String.ofList (text.toList.takeWhile (· != '='))
    match text.toList.dropWhile (· != '=') with
    | [] => none
    | _ :: value =>
      if !isName name then none
      else if value.isEmpty then some (name, rest)
      else some (name, .literal (String.ofList value) false :: rest)
  | _ => none

end LineShell.Script
