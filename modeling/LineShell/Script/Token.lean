import LineShell.Script.Word

/-!
# Reading tokens

A script is a sequence of tokens: words, the signs that separate and join commands, and the
operators of redirections. A comment begins where a word could begin and goes on to the end of its
line.

One token can be held back after it was looked at. Who looks at it says whether line breaks count
and whether a word may be a keyword; a word that was once taken for a keyword remains one.
-/

namespace LineShell.Script

/-- The words that mean something where a command could begin. -/
def keywords : List String :=
  ["!", "case", "do", "done", "elif", "else", "esac", "fi", "for", "if", "in", "then", "until",
    "while", "\x7b", "\x7d"]

/-- The token itself, or the keyword that it is. -/
def Token.asKeyword (token : Token) : Token :=
  match token with
  | .word pieces =>
    match Word.plain? pieces with
    | some text => if text ∈ keywords then .keyword text else token
    | none => token
  | _ => token

/-- The descriptor that a word in front of a redirection names. -/
def Word.descriptor? : Word → Option Nat
  | [.literal text false] =>
    match text.toList with
    | [c] => if c.isDigit then some (c.toNat - '0'.toNat) else none
    | _ => none
  | _ => none

namespace Reader

/-! ## Single tokens -/

/-- Take blanks and a comment. -/
def skipBlanks : Reader Unit := do
  discard (takeWhile fun c ↦ c == ' ' || c == '\t')
  if (← peek) = some '#' then
    modify fun source ↦ { source with rest := source.rest.dropWhile (· != '\n') }

/-- The operator of a redirection that begins with a character, and its own descriptor. -/
def readRedirectSign (c : Char) : Reader (Nat × RedirectSign) := do
  if c = '>' then
    if ← takeIf '>' then return (1, .file .append)
    else if ← takeIf '&' then return (1, .duplicate)
    else if ← takeIf '|' then return (1, .file .overwrite)
    else return (1, .file .truncate)
  else if ← takeIf '<' then return (0, .document !(← takeIf '-'))
  else if ← takeIf '&' then return (0, .duplicate)
  else if ← takeIf '>' then return (0, .file .update)
  else return (0, .file .input)

/-- A token that begins with a character. -/
def readTokenFrom (nested : Reader Statement) (c : Char) : Reader Token := do
  let redirect := fun (descriptor? : Option Nat) (c : Char) ↦ do
    discard take
    let (descriptor, sign) ← readRedirectSign c
    return Token.redirect (descriptor?.getD descriptor) sign
  if c = '\n' then
    discard take
    return .newline
  else if c = '>' || c = '<' then redirect none c
  else if c = '(' || c = ')' then
    discard take
    return .sign (String.ofList [c])
  else if isBoundary c then
    discard take
    if ← takeIf c then return .sign (String.ofList [c, c]) else return .sign (String.ofList [c])
  else
    let word ← readIn nested .bare
    match ← peek, word.descriptor? with
    | some c, some descriptor =>
      if c = '>' || c = '<' then redirect (some descriptor) c else return .word word
    | _, _ => return .word word

/-- The next token. -/
def readToken (nested : Reader Statement) : Reader Token := do
  skipBlanks
  match ← peek with
  | none => return .endOfFile
  | some c => readTokenFrom nested c

/-! ## Looking ahead -/

/-- How a token is looked at. -/
structure Look where
  /-- Whether line breaks in front of it are skipped. -/
  skipsLines : Bool := false
  /-- Whether it may be a keyword. -/
  seesKeywords : Bool := false
  deriving DecidableEq, Repr

/-- Look where a command may begin, perhaps on another line. -/
def Look.anywhere : Look := ⟨true, true⟩

/-- Look where a command may begin. -/
def Look.command : Look := ⟨false, true⟩

/-- Look at a token as it is. -/
def Look.plain : Look := {}

/-- The token that is held, or else the next one. -/
def heldToken (nested : Reader Statement) : Reader Token := do
  match (← get).held with
  | some token => return token
  | none => readToken nested

/-- Go over line breaks, at most so many, and the here-documents after them. -/
def pastLines (nested : Reader Statement) : Nat → Token → Reader Token
  | steps + 1, .newline => do
    modify fun source ↦ { source with held := none }
    readDocuments nested
    pastLines nested steps (← readToken nested)
  | _, token => return token

/-- What stands behind an alias, given the aliases that may still be replaced. No alias is replaced
in what it stands for itself. -/
def pastAliases (nested : Reader Statement) :
    Nat → List (String × String) → Token → Reader Token
  | 0, _, token => return token
  | steps + 1, aliases, token => do
    let name? := match token with
      | .word pieces => Word.plain? pieces
      | _ => none
    match name?.bind fun name ↦ aliases.find? (·.1 = name) with
    | none => return token
    | some (name, value) =>
      modify fun source ↦ { source with rest := value.toList ++ source.rest }
      pastAliases nested steps (aliases.filter (·.1 ≠ name)) (← readToken nested)

/-- Look at the next token. -/
def look (nested : Reader Statement) (how : Look) : Reader Token := do
  let token ← heldToken nested
  let token ← if how.skipsLines then pastLines nested (← get).bound token else pure token
  let seesAlias := how.seesKeywords && (← get).held.isNone
  let token := if how.seesKeywords then token.asKeyword else token
  let token ←
    if seesAlias then
      let aliases := (← get).aliases
      let token ← pastAliases nested aliases.length aliases token
      pure token.asKeyword
    else pure token
  modify fun source ↦ { source with held := some token }
  return token

/-- Take the token that was looked at. -/
def drop : Reader Unit :=
  modify fun source ↦ { source with held := none }

/-- Take the next token. -/
def takeToken (nested : Reader Statement) (how : Look) : Reader Token := do
  let token ← look nested how
  drop
  return token

/-- Take a keyword that must come next. -/
def expectKeyword (nested : Reader Statement) (how : Look) (name : String) : Reader Unit := do
  match ← takeToken nested how with
  | .keyword found =>
    if found ≠ name then fail (.expected (Token.keyword found).name (Token.keyword name).name)
  | token => fail (.expected token.name (Token.keyword name).name)

/-- Take a sign that must come next. -/
def expectSign (nested : Reader Statement) (how : Look) (text : String) : Reader Unit := do
  match ← takeToken nested how with
  | .sign found =>
    if found ≠ text then fail (.expected (Token.sign found).name (Token.sign text).name)
  | token => fail (.expected token.name (Token.sign text).name)

end Reader

end LineShell.Script
