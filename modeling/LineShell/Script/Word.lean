import LineShell.Script.Source

/-!
# Reading words

A word is read piece by piece. What a character means depends on what it stands in: in a bare word a
blank ends it, between double quotes only expansions and some escapes have a meaning, and inside of
an expansion the rules are those of what stands around it. Such contexts nest, so the reader of
pieces calls itself; every call takes a character away, and their number is bounded by the source.

A word may hold lists of commands. How such a list is read is a parameter here.
-/

namespace LineShell.Script

/-- What pieces stand in. -/
inductive Context where
  /-- A word by itself. -/
  | bare
  /-- The word that ends a here-document, in which nothing is expanded. -/
  | delimiter
  /-- Double quotes. -/
  | quotes
  /-- The braces of an expansion, which may stand between double quotes, and whether a double quote
  is open in them. -/
  | braces (quoted isOpen : Bool)
  /-- An arithmetic expression, and how many parentheses are open in it. -/
  | arithmetic (depth : Nat)
  /-- A here-document. -/
  | document
  deriving DecidableEq, Repr

namespace Context

/-- Whether characters stand for themselves. -/
def isQuoted : Context → Bool
  | .bare | .delimiter => false
  | .braces quoted _ => quoted
  | _ => true

/-- Whether a backslash remains in front of a character. -/
def keepsBackslash (context : Context) (c : Char) : Bool :=
  match context with
  | .bare | .delimiter | .braces false _ => false
  | .quotes | .arithmetic _ => c ∉ ['\\', '\x60', '$', '"']
  | .braces true _ => c ∉ ['\\', '\x60', '$', '"', '\x7d']
  | .document => c ∉ ['\\', '\x60', '$']

/-- The problem with a source that ends in this context. -/
def problemAtEnd? : Context → Option Problem
  | .bare | .delimiter | .document => none
  | .quotes | .braces true _ => some .openQuote
  | .braces false _ => some .openBrace
  | .arithmetic _ => some .openArithmetic

end Context

/-- The characters that end a word outside of quotes. -/
def isBoundary (c : Char) : Bool :=
  c ∈ [' ', '\t', '\n', ';', '&', '|', '<', '>', '(', ')']

namespace Reader

/-! ## Quotes -/

/-- The text up to a single quote. -/
def readSingleQuoted : Reader String := do
  let source ← get
  let text := source.rest.takeWhile (· != '\'')
  match source.rest.dropWhile (· != '\'') with
  | [] =>
    set { source with line := source.line + text.count '\n' }
    fail .openQuote
  | _ :: rest =>
    set { source with rest, line := source.line + text.count '\n' }
    return String.ofList text

/-- What a backslash makes of the character after it. -/
def readEscaped (context : Context) : Reader String := do
  match ← takeAny with
  | none => return "\\"
  | some c => return if context.keepsBackslash c then String.ofList ['\\', c] else String.ofList [c]

/-! ## Substituted commands -/

/-- A list of commands up to a closing parenthesis. Here-documents that begin after it are none of
its commands' own. -/
def readSubstitution (nested : Reader Statement) : Reader Statement := do
  let outer := (← get).pending
  modify fun source ↦ { source with pending := [] }
  let body ← nested
  match (← get).held with
  | some (.sign ")") =>
    modify fun source ↦ { source with held := none, pending := outer }
    return body
  | some token => fail (.expected token.name "\")\"")
  | none => fail (.expected Token.endOfFile.name "\")\"")

/-- The text up to a backquote, without the backslashes that only protect it. -/
def readBackquoted (quoted : Bool) : Nat → List Char → Reader (List Char)
  | 0, _ => fail .openBackquote
  | steps + 1, taken => do
    match ← take with
    | none => fail .openBackquote
    | some '\x60' => return taken.reverse
    | some '\\' =>
      match ← takeAny with
      | none => fail .openBackquote
      | some c =>
        let isPlain := c ∈ ['\\', '\x60', '$'] || quoted && c == '"'
        readBackquoted quoted steps (if isPlain then c :: taken else c :: '\\' :: taken)
    | some c => readBackquoted quoted steps (c :: taken)

/-! ## Parameters -/

/-- The name of a parameter, if there is one. -/
def readName? : Reader (Option String) := do
  match ← peek with
  | none => return none
  | some c =>
    if isNameStart c then return some (String.ofList (← takeWhile isNameChar))
    else if c.isDigit then return some (String.ofList (← takeWhile Char.isDigit))
    else if isSpecial c then
      discard take
      return some (String.ofList [c])
    else return none

/-- Whether a number sign in braces asks for the length of what follows it: a name, or one character
that the brace is closed after. -/
def asksForLength : List Char → Bool
  | '#' :: rest =>
    match (joinLines rest).2 with
    | [] => false
    | c :: rest => isNameChar c || c != '\x7d' && (joinLines rest).2.head? == some '\x7d'
  | _ => false

/-- The use that a character after a parameter's name leads to, given its word. -/
def wordUse? (c : Char) (orEmpty : Bool) (word : Word) : Option Use :=
  match c with
  | '-' => some (.default orEmpty word)
  | '=' => some (.assign orEmpty word)
  | '?' => some (.demand orEmpty word)
  | '+' => some (.instead orEmpty word)
  | _ => none

/-- What stands after a parameter's name in braces, given how the rest of the braces is read. A line
that ends right after the name is not counted. -/
def readUse (inside : Context → Reader Word) (quoted : Bool) : Reader Use := do
  match ← takeUncounted with
  | some '\x7d' => return .value
  | some ':' =>
    let c ← takeUncounted
    let word ← inside (.braces quoted false)
    return (c.bind fun c ↦ wordUse? c true word).getD .invalid
  | some c =>
    if c = '%' || c = '#' then
      let longest ← takeIf c
      return .trim (c == '%') longest (← inside (.braces false false))
    else
      let word ← inside (.braces quoted false)
      return (wordUse? c false word).getD .invalid
  | none =>
    discard (inside (.braces quoted false))
    return .invalid

/-- The name of a parameter after an opening brace. A character that begins no name is lost. -/
def readBracedName? : Reader (Option String) := do
  match ← readName? with
  | some name => return some name
  | none =>
    if (← peek) != some '\x7d' then discard takeUncounted
    return none

/-- The expansion after an opening brace. -/
def readBraced (inside : Context → Reader Word) (quoted : Bool) : Reader Piece := do
  discard peek
  let isLength := asksForLength (← get).rest
  if isLength then discard take
  match ← readBracedName? with
  | some name =>
    if !isLength then return .parameter name (← readUse inside quoted) quoted
    else if ← takeIf '\x7d' then return .parameter name .length quoted
    else
      discard (inside (.braces quoted false))
      return .parameter name .invalid quoted
  | none =>
    discard (inside (.braces quoted false))
    return .parameter "" .invalid quoted

/-- The expansion after a dollar sign. A dollar sign that begins no expansion stands for itself. -/
def readExpansion (nested : Reader Statement) (inside : Context → Reader Word) (quoted : Bool) :
    Reader Piece := do
  match ← peek with
  | some '(' =>
    discard take
    if ← takeIf '(' then return .arithmetic (← inside (.arithmetic 0)) quoted
    else return .command (← readSubstitution nested) quoted
  | some '\x7b' =>
    discard take
    readBraced inside quoted
  | some c =>
    if isSpecial c then
      discard take
      return .parameter (String.ofList [c]) .value quoted
    else match ← (if isNameStart c then readName? else pure none) with
      | some name => return .parameter name .value quoted
      | none => return .literal "$" quoted
  | none => return .literal "$" quoted

/-! ## Pieces -/

/-- Whether the pieces between quotes are nothing but all arguments, of which there may be none.
Other quotes always come to something. -/
def isEachArgument : Word → Bool
  | [.parameter "@" .value _] => true
  | _ => false

/-- The pieces that a character begins, and the context after them. There are none where the context
ends. -/
def readPiece (nested : Reader Statement) (inside : Context → Reader Word) (context : Context)
    (c : Char) : Reader (Option (Word × Context)) := do
  let literal := fun c ↦ Piece.literal (String.ofList [c]) context.isQuoted
  let isBare := !context.isQuoted
  if c = '\\' then
    discard take
    return some ([.literal (← readEscaped context) true], context)
  else if c = '\'' && isBare then
    discard take
    return some ([.literal (← readSingleQuoted) true], context)
  else if c = '$' && context ≠ .delimiter then
    discard take
    return some ([← readExpansion nested inside context.isQuoted], context)
  else if c = '\x60' && context ≠ .delimiter then
    discard take
    let text ← readBackquoted context.isQuoted (← get).bound []
    return some ([.command (← within text nested) context.isQuoted], context)
  else match c, context with
    | '"', .quotes => do
      discard take
      return none
    | '"', .braces true isOpen => do
      discard take
      return some ([], .braces true !isOpen)
    | '"', _ => do
      discard take
      if isBare then
        let pieces ← inside .quotes
        return some (if isEachArgument pieces then pieces else .literal "" true :: pieces, context)
      else return some ([literal c], context)
    | '\x7d', .braces _ false => do
      discard take
      return none
    | '(', .arithmetic depth => do
      discard take
      return some ([literal c], .arithmetic (depth + 1))
    | ')', .arithmetic 0 => do
      discard take
      if ← takeIf ')' then return none else return some ([literal c], context)
    | ')', .arithmetic (depth + 1) => do
      discard take
      return some ([literal c], .arithmetic depth)
    | c, .bare | c, .delimiter => do
      if isBoundary c then return none
      else
        discard take
        return some ([literal c], context)
    | c, _ => do
      discard take
      return some ([literal c], context)

/-- The pieces up to the end of a context, after those in a reversed word. -/
def readPieces (nested : Reader Statement) : Nat → Context → Word → Reader Word
  | 0, _, reversed => return reversed.reverse
  | steps + 1, context, reversed => do
    match ← peek with
    | none =>
      match context.problemAtEnd? with
      | none => return reversed.reverse
      | some problem => fail problem
    | some c =>
      match ← readPiece nested (fun inner ↦ readPieces nested steps inner []) context c with
      | none => return reversed.reverse
      | some (pieces, context) => readPieces nested steps context (pieces.foldl Word.push reversed)

/-- The pieces up to the end of a context. -/
def readIn (nested : Reader Statement) (context : Context) : Reader Word := do
  readPieces nested (← get).bound context []

/-! ## Here-documents -/

/-- Take the line that ends a here-document, if it comes next; so does the end of the source. Tabs
at the start of another line are taken if they do not count. -/
def takeDelimiter (pending : Pending) : Reader Bool := do
  let source ← get
  let rest := if pending.keepsTabs then source.rest else source.rest.dropWhile (· == '\t')
  let text := rest.takeWhile (· != '\n')
  let after := rest.drop text.length
  let isEnd := text = pending.delimiter.toList || text.isEmpty && after.isEmpty
  if isEnd then
    set { source with rest := after.tail, line := source.line + (if after.isEmpty then 0 else 1) }
  else set { source with rest }
  return isEnd

/-- The lines of a here-document, after those in a reversed text. -/
def readLines (pending : Pending) : Nat → List Char → Reader (List Char)
  | 0, taken => return taken.reverse
  | steps + 1, taken => do
    if ← takeDelimiter pending then return taken.reverse
    let source ← get
    let text := source.rest.takeWhile (· != '\n')
    let after := source.rest.drop text.length
    set { source with rest := after.tail, line := source.line + (if after.isEmpty then 0 else 1) }
    readLines pending steps (after.take 1 ++ text.reverse ++ taken)

/-- The pieces of a here-document, after those in a reversed word. -/
def readDocument (nested : Reader Statement) (pending : Pending) :
    Nat → (isLineStart : Bool) → Word → Reader Word
  | 0, _, reversed => return reversed.reverse
  | steps + 1, isLineStart, reversed => do
    if ← (if isLineStart then takeDelimiter pending else return false) then return reversed.reverse
    match ← peek with
    | none => return reversed.reverse
    | some c =>
      let inside (context : Context) : Reader Word := readPieces nested steps context []
      match ← readPiece nested inside .document c with
      | none => return reversed.reverse
      | some (pieces, _) =>
        readDocument nested pending steps (c == '\n') (pieces.foldl Word.push reversed)

/-- Read the here-documents that were asked for. In them quotes have no end of their own, but
braces have. -/
def readDocuments (nested : Reader Statement) : Reader Unit := do
  let pending := (← get).pending
  modify fun source ↦ { source with pending := [] }
  pending.forM fun document ↦ do
    let bound := (← get).bound
    let word ←
      if document.verbatim then
        let text ← readLines document bound []
        pure [.literal (String.ofList text) true]
      else
        try readDocument nested document bound true []
        catch error =>
          throw (if error.problem = .openQuote then { error with problem := .openBrace } else error)
    modify fun source ↦ { source with documents := (document.index, word) :: source.documents }

end Reader

end LineShell.Script
