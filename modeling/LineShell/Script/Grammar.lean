import LineShell.Script.Token

/-!
# Reading commands

Commands are read by descent: a list is made of chains, a chain of pipelines, a pipeline of
commands, and a command with structure holds lists again. The reader of one level of structure is
made from that of the level below, and a script may have `maxLevels` of them.

Whether a word is a keyword is decided where it is looked at. A list knows whether it may be empty:
one in a condition may not, one in a clause may.
-/

namespace LineShell.Script

/-- What reads the commands inside of a command. -/
structure Level where
  command : Reader Statement
  /-- A list that may be empty, as in substitutions. -/
  list : Reader Statement

namespace Reader

/-- The tokens that end a list. -/
def isCloser : Token → Bool
  | .endOfFile => true
  | .sign text => text ∈ [")", ";;"]
  | .keyword name =>
    name ∈ ["do", "done", "elif", "else", "esac", "fi", "then", "\x7d"]
  | _ => false

/-! ## Redirections -/

/-- What a redirection refers to. -/
def readTarget (below : Level) (descriptor : Nat) : RedirectSign → Reader Redirect
  | .document keepsTabs => do
    skipBlanks
    match ← peek with
    | some c =>
      if isBoundary c then
        let token ← takeToken below.list .plain
        fail (.unexpected token.name)
      else
        let word ← readIn below.list .delimiter
        let index := (← get).nextDocument
        let verbatim := word.any fun
          | .literal _ quoted => quoted
          | _ => false
        let delimiter := String.join (word.map fun
          | .literal text _ => text
          | _ => "")
        modify fun source ↦ { source with
          pending := source.pending ++ [⟨index, delimiter, keepsTabs, verbatim⟩]
          nextDocument := index + 1 }
        return .document descriptor index
    | none => fail (.unexpected Token.endOfFile.name)
  | sign => do
    match ← takeToken below.list .plain with
    | .word word =>
      match sign with
      | .file opening => return .file descriptor opening word
      | _ => return .duplicate descriptor word
    | token => fail (.unexpected token.name)

/-- The redirections that come next, at most so many. -/
def readRedirects (below : Level) (how : Look) : Nat → Reader (List Redirect)
  | 0 => return []
  | steps + 1 => do
    match ← look below.list how with
    | .redirect descriptor sign =>
      drop
      let redirect ← readTarget below descriptor sign
      return redirect :: (← readRedirects below how steps)
    | _ => return []

/-! ## Simple commands -/

/-- The parts of a simple command that were read, each list with the last one first. -/
structure Draft where
  assignments : List (String × Word) := []
  words : List Word := []
  redirects : List Redirect := []

/-- The names that no function may have. -/
def specialBuiltins : List String :=
  [".", ":", "break", "continue", "eval", "exec", "exit", "export", "local", "readonly", "return",
    "set", "shift", "times", "trap", "unset"]

/-- A function, after its name and the parenthesis that follows. -/
def readFunction (below : Level) (name : Word) : Reader Statement := do
  expectSign below.list .plain ")"
  match name.plain? with
  | some text =>
    if !isName text || text ∈ specialBuiltins then fail .badFunctionName
    discard (look below.list .anywhere)
    return .function (← get).line text (← below.command)
  | none => fail .badFunctionName

/-- The rest of a simple command. -/
def readSimple (below : Level) (line : Nat) : Nat → Draft → Reader Statement
  | 0, _ => fail .tooDeep
  | steps + 1, draft => do
    match ← look below.list .plain, draft with
    | .word word, _ =>
      drop
      match draft.words, word.assignment? with
      | [], some assignment =>
        readSimple below line steps
          { draft with assignments := assignment :: draft.assignments }
      | words, _ => readSimple below line steps { draft with words := word :: words }
    | .redirect descriptor sign, _ =>
      drop
      let redirect ← readTarget below descriptor sign
      readSimple below line steps { draft with redirects := redirect :: draft.redirects }
    | .sign "(", { assignments := [], words := [name], redirects := [] } =>
      drop
      readFunction below name
    | _, _ =>
      return .simple line draft.assignments.reverse draft.words.reverse draft.redirects.reverse

/-! ## Pipelines and chains -/

/-- The stages of a pipeline after the first, at most so many. -/
def readStages (level : Level) (below : Level) : Nat → Reader (List Statement)
  | 0 => return []
  | steps + 1 => do
    match ← look below.list .plain with
    | .sign "|" =>
      drop
      discard (look below.list .anywhere)
      let stage ← level.command
      return stage :: (← readStages level below steps)
    | _ => return []

/-- A pipeline, whose first token was looked at. -/
def readPipeline (level below : Level) : Reader Statement := do
  let isNegated := match ← look below.list .plain with
    | .keyword "!" => true
    | _ => false
  if isNegated then
    drop
    discard (look below.list .command)
  let first ← level.command
  let statement ← match ← readStages level below (← get).bound with
    | [] => pure first
    | others => pure (.pipeline (first :: others))
  return if isNegated then .negated statement else statement

/-- The pipelines that depend on the status of a statement, at most so many. -/
def readChain (level below : Level) : Nat → Statement → Reader Statement
  | 0, left => return left
  | steps + 1, left => do
    match ← look below.list .plain with
    | .sign "&&" =>
      drop
      discard (look below.list .anywhere)
      readChain level below steps (.both left (← readPipeline level below))
    | .sign "||" =>
      drop
      discard (look below.list .anywhere)
      readChain level below steps (.either left (← readPipeline level below))
    | _ => return left

/-! ## Lists -/

/-- Put a statement after those that were read. -/
def after (before : Option Statement) (statement : Statement) : Statement :=
  match before with
  | none => statement
  | some first => .sequence first statement

/-- The rest of a list, after what was read of it. It ends at a token that ends lists, which remains
held, unless the list must not be empty and still is. The end of the script always ends it. -/
def readListFrom (level below : Level) (mayBeEmpty : Bool) :
    Nat → Option Statement → Reader Statement
  | 0, _ => fail .tooDeep
  | steps + 1, before => do
    let token ← look below.list .anywhere
    let isEnd := match token with
      | .endOfFile => true
      | token => isCloser token && (mayBeEmpty || before.isSome)
    if isEnd then return before.getD .nothing
    let first ← readPipeline level below
    let chain ← readChain level below (← get).bound first
    match ← look below.list .plain with
    | .sign "&" =>
      drop
      readListFrom level below mayBeEmpty steps (after before (.background chain))
    | .sign ";" =>
      drop
      readListFrom level below mayBeEmpty steps (after before chain)
    | .newline => readListFrom level below mayBeEmpty steps (after before chain)
    | _ => return after before chain

/-- A list. -/
def readList (level below : Level) (mayBeEmpty : Bool) : Reader Statement := do
  readListFrom level below mayBeEmpty (← get).bound none

/-- The rest of a line of commands, after what was read of it. It ends behind the line break, and
nothing but commands may stand in it. -/
def readLineFrom (level below : Level) : Nat → Option Statement → Reader (Option Statement)
  | 0, _ => fail .tooDeep
  | steps + 1, before => do
    match ← look below.list .command with
    | .newline =>
      drop
      readDocuments below.list
      return some (before.getD .nothing)
    | .endOfFile =>
      readDocuments below.list
      return before
    | _ =>
      let first ← readPipeline level below
      let chain ← readChain level below (← get).bound first
      match ← look below.list .plain with
      | .sign "&" =>
        drop
        readLineFrom level below steps (some (after before (.background chain)))
      | .sign ";" =>
        drop
        readLineFrom level below steps (some (after before chain))
      | .newline | .endOfFile => readLineFrom level below steps (some (after before chain))
      | token => fail (.unexpected token.name)

/-! ## Commands with structure -/

/-- What follows a test: the commands for both cases, and the keyword that ends the condition. -/
def readBranches (below : Level) (list : Reader Statement) : Nat → Reader Statement
  | 0 => fail .tooDeep
  | steps + 1 => do
    let test ← list
    expectKeyword below.list .plain "then"
    let yes ← list
    match ← look below.list .plain with
    | .keyword "elif" =>
      drop
      return .conditional test yes (← readBranches below list steps)
    | .keyword "else" =>
      drop
      let no ← list
      expectKeyword below.list .plain "fi"
      return .conditional test yes no
    | _ =>
      expectKeyword below.list .plain "fi"
      return .conditional test yes .nothing

/-- A list between `do` and `done`. -/
def readBody (below : Level) (list : Reader Statement) (how : Look) : Reader Statement := do
  expectKeyword below.list how "do"
  let body ← list
  expectKeyword below.list .plain "done"
  return body

/-- The words that come next, at most so many, and the token after them, which is taken. -/
def readWords (below : Level) : Nat → Reader (List Word × Token)
  | 0 => fail .tooDeep
  | steps + 1 => do
    match ← takeToken below.list .plain with
    | .word word =>
      let (words, token) ← readWords below steps
      return (word :: words, token)
    | token => return ([], token)

/-- A loop over items, after its keyword. Without items it goes over the arguments. -/
def readEach (below : Level) (list : Reader Statement) (line : Nat) : Reader Statement := do
  let name ← match ← takeToken below.list .plain with
    | .word word =>
      match word.plain? with
      | some name => if isName name then pure name else fail .badVariable
      | none => fail .badVariable
    | _ => fail .badVariable
  match ← look below.list .anywhere with
  | .keyword "in" =>
    drop
    let (items, token) ← readWords below (← get).bound
    match token with
    | .newline =>
      readDocuments below.list
    | .sign ";" => pure ()
    | token => fail (.unexpected token.name)
    return .each line name items (← readBody below list .anywhere)
  | token =>
    if let .sign ";" := token then drop
    return .each line name [[.parameter "@" .value true]] (← readBody below list .anywhere)

/-- The patterns of a clause up to the closing parenthesis. -/
def readPatterns (below : Level) : Nat → Token → Reader (List Word)
  | 0, _ => fail .tooDeep
  | steps + 1, token => do
    let pattern ← match token with
      | .word word => pure word
      | .keyword name => pure [.literal name false]
      | token => fail (.unexpected token.name)
    match ← takeToken below.list .plain with
    | .sign "|" => return pattern :: (← readPatterns below steps (← takeToken below.list .plain))
    | .sign ")" => return [pattern]
    | token => fail (.expected token.name "\")\"")

/-- The clauses of a choice up to its last keyword. -/
def readClauses (below : Level) (list : Reader Statement) :
    Nat → Reader (List (List Word × Statement))
  | 0 => fail .tooDeep
  | steps + 1 => do
    match ← takeToken below.list .anywhere with
    | .keyword "esac" => return []
    | token =>
      let first ← match token with
        | .sign "(" => takeToken below.list .plain
        | token => pure token
      let patterns ← readPatterns below (← get).bound first
      let body ← list
      match ← takeToken below.list .anywhere with
      | .keyword "esac" => return [(patterns, body)]
      | .sign ";;" => return (patterns, body) :: (← readClauses below list steps)
      | token => fail (.expected token.name "\";;\"")

/-- A choice, after its keyword. -/
def readChoice (below : Level) (list : Reader Statement) (line : Nat) : Reader Statement := do
  match ← takeToken below.list .plain with
  | .word subject =>
    expectKeyword below.list .anywhere "in"
    return .choice line subject (← readClauses below list (← get).bound)
  | token => fail (.expected token.name "word")

/-- A command with structure, after its first token, given how its lists are read. -/
def readStructure (below : Level) (line : Nat) (list possiblyEmpty : Reader Statement) :
    Token → Reader Statement
  | .keyword "if" => do readBranches below list (← get).bound
  | .keyword "while" => do
    let test ← list
    return .loop true test (← readBody below list .plain)
  | .keyword "until" => do
    let test ← list
    return .loop false test (← readBody below list .plain)
  | .keyword "for" => readEach below list line
  | .keyword "case" => readChoice below possiblyEmpty line
  | .keyword "\x7b" => do
    let body ← list
    expectKeyword below.list .plain "\x7d"
    return body
  | .sign "(" => do
    let body ← list
    expectSign below.list .plain ")"
    return .subshell line body []
  | token => fail (.unexpected token.name)

/-- A command, whose first token was looked at. -/
def readCommand (below deeper : Level) : Reader Statement := do
  let token ← look below.list .plain
  let line := (← get).line
  match token with
  | .word _ | .redirect _ _ => readSimple below line (← get).bound {}
  | token =>
    drop
    let list := readList below deeper false
    let body ← readStructure below line list (readList below deeper true) token
    match ← readRedirects below .command (← get).bound with
    | [] => return body
    | redirects =>
      match body with
      | .subshell line body _ => return .subshell line body redirects
      | body => return .redirected line body redirects

/-! ## Levels -/

/-- How many levels of structure a script may have. -/
def maxLevels : Nat := 400

/-- What reads the commands with so many levels inside of them. -/
def level : Nat → Level
  | 0 => ⟨fail .tooDeep, fail .tooDeep⟩
  | 1 => ⟨fail .tooDeep, fail .tooDeep⟩
  | levels + 2 =>
    { command := fun source ↦ readCommand (level (levels + 1)) (level levels) source
      list := fun source ↦ readList (level (levels + 1)) (level levels) true source }

/-- The next line of commands. There is none at the end of the script. -/
def readLine : Reader (Option Statement) := do
  readLineFrom (level (maxLevels + 1)) (level maxLevels) (← get).bound none

end Reader

/-- The source of a text. -/
def Source.ofText (text : String) : Source :=
  { rest := text.toList }

end LineShell.Script
