import LineShell.Process.Search
import LineShell.Utility.Basic

/-!
# The environment

Utilities that show the environment, or run a program in another one.

The program and its arguments may be given as one text, which is split into arguments here. Outside
quotes, blanks separate them, a brace after a dollar sign encloses the name of a variable, and a
number sign at the start of an argument ends the text.
-/

namespace LineShell.Utility

/-- Variables as they are shown, each with an ending. -/
def showVariables (bindings : List (String × String)) (ending : String) : Bytes :=
  Octets.toBytes (String.join (bindings.map fun (name, value) ↦ name ++ "=" ++ value ++ ending))

/-- Print variables of the environment. -/
def printenv : Utility :=
  withOptions [⟨'0', "null", .none⟩]
    (fun name parsed ↦ do
      let process ← read
      let ending := if parsed.has '0' then "\x00" else "\n"
      let values := parsed.operands.filterMap process.lookUp?
      let isComplete := parsed.operands.all fun name ↦ (process.lookUp? name).isSome
      finish name
        { stdout := if parsed.operands.isEmpty then showVariables process.environment ending
            else Octets.toBytes (String.join (values.map (· ++ ending)))
          status := if isComplete then 0 else 1 })
    false 2

/-! ## Splitting a text into arguments -/

namespace Split

/-- How far a text has been split. -/
structure Progress where
  /-- The arguments that are complete, the last one first. -/
  done : List String := []
  /-- The argument that has begun, the last character first. -/
  begun? : Option (List Char) := none
  /-- The quote that is open. -/
  quote? : Option Char := none

namespace Progress

/-- Add characters to the argument, which begins if it has not. -/
def add (progress : Progress) (cs : List Char) : Progress :=
  { progress with begun? := some (cs.reverse ++ progress.begun?.getD []) }

/-- End the argument, if one has begun. -/
def separate (progress : Progress) : Progress :=
  match progress.begun? with
  | none => progress
  | some cs => { progress with done := String.ofList cs.reverse :: progress.done, begun? := none }

/-- All arguments, unless a quote is still open. -/
def complete (progress : Progress) : Except String (List String) :=
  match progress.quote? with
  | some _ => .error "no terminating quote in -S string"
  | none => .ok progress.separate.done.reverse

end Progress

/-- The name in braces that a text begins with, and the rest. -/
def enclosedName? (text : List Char) : Option (String × List Char) :=
  match text with
  | '\x7b' :: rest =>
    let name := rest.takeWhile fun c ↦ c.isAlphanum || c == '_'
    match rest.drop name.length with
    | '\x7d' :: rest =>
      if name.head?.any fun c ↦ !c.isDigit then some (String.ofList name, rest) else none
    | _ => none
  | _ => none

/-- The character that a letter stands for after a backslash. -/
def escaped? : Char → Option Char
  | 'f' => some '\x0c'
  | 'n' => some '\n'
  | 'r' => some '\r'
  | 't' => some '\t'
  | 'v' => some '\x0b'
  | c => if c ∈ ['"', '#', '$', '\'', '\\'] then some c else none

/-- Whether a character separates arguments. -/
def isGap (c : Char) : Bool :=
  c ∈ [' ', '\t', '\n', '\x0b', '\x0c', '\r']

/-- Split a text of at most so many characters, given the values of variables. -/
def go (lookUp? : String → Option String) :
    Nat → List Char → Progress → Except String (List String)
  | 0, _, progress | _, [], progress => progress.complete
  | steps + 1, c :: rest, progress =>
    let isBare := progress.quote?.isNone
    let isSingle := progress.quote? == some '\''
    let toggled : Progress := { progress.add [] with quote? := if isBare then some c else none }
    if c == '\'' && progress.quote? != some '"' || c == '"' && !isSingle then
      go lookUp? steps rest toggled
    else if isGap c && isBare then go lookUp? steps rest progress.separate
    else if c == '#' && isBare && progress.begun?.isNone then progress.complete
    else if c == '\\' && (!isSingle || rest.head?.any (· ∈ ['\\', '\''])) then
      match rest with
      | [] => .error "invalid backslash at end of string in -S"
      | '_' :: rest =>
        go lookUp? steps rest (if isBare then progress.separate else progress.add [' '])
      | 'c' :: _ =>
        if isBare then progress.complete
        else .error "'\\c' must not appear in double-quoted -S string"
      | letter :: rest =>
        match escaped? letter with
        | some c => go lookUp? steps rest (progress.add [c])
        | none => .error ("invalid sequence '\\" ++ String.ofList [letter] ++ "' in -S")
    else if c == '$' && !isSingle then
      match enclosedName? rest with
      | none =>
        .error ("only $\x7bVARNAME\x7d expansion is supported, error at: "
          ++ String.ofList (c :: rest))
      | some (name, rest) =>
        go lookUp? steps rest <|
          match lookUp? name with
          | some value => progress.add value.toList
          | none => progress
    else go lookUp? steps rest (progress.add [c])

end Split

/-- The arguments in a text, given the values of variables. -/
def splitArguments (lookUp? : String → Option String) (text : String) :
    Except String (List String) :=
  Split.go lookUp? text.length text.toList {}

/-! ## Running a program in another environment -/

/-- Give a variable a value, in its place if it is there. -/
def assign (bindings : List (String × String)) (name value : String) : List (String × String) :=
  if bindings.any fun entry ↦ entry.1 = name then
    bindings.map fun entry ↦ if entry.1 = name then (name, value) else entry
  else bindings ++ [(name, value)]

/-- The name and the value in an argument that assigns one. -/
def assignment? (argument : String) : Option (String × String) :=
  let name := argument.toList.takeWhile (· != '=')
  match argument.toList.drop name.length with
  | [] => none
  | _ :: value => some (String.ofList name, String.ofList value)

/-- The options of the utility that runs a program in another environment. -/
def envFlags : List Flag :=
  [⟨'i', "ignore-environment", .none⟩, ⟨'0', "null", .none⟩, ⟨'u', "unset", .one⟩,
    ⟨'C', "chdir", .one⟩, ⟨'S', "split-string", .one⟩, ⟨'v', "debug", .none⟩,
    ⟨'d', "default-signal", .maybe⟩, ⟨'g', "ignore-signal", .maybe⟩,
    ⟨'b', "block-signal", .maybe⟩, ⟨'l', "list-signal-handling", .none⟩]

/-- The environment that options and assignments make of another one. -/
def environmentAfter (bindings : List (String × String)) (isEmpty : Bool)
    (removed assigned : List String) : List (String × String) :=
  let start := if isEmpty then []
    else bindings.filter fun entry ↦ !removed.contains entry.1
  (assigned.filterMap assignment?).foldl (fun bindings (name, value) ↦
    assign bindings name value) start

/-- Run a program in place of the utility, which ends as the program does. If it cannot be run, the
user is told why. -/
def becomeProgram (execute : Execute) (name : String) (argv : List String) : Job Int := do
  let program := argv.headD ""
  let answer ← if program = "" then pure (.error .noEntry)
    else executeNamed (executeOrInterpret execute) argv
  match answer with
  | .ok ended => return ended
  | .error error =>
    let isMissing := error = .noEntry
    let advice := if isMissing && program.toList.contains ' ' then
        name ++ ": use -[v]S to pass options in shebang lines\n"
      else ""
    finish name
      { stderr := name ++ ": " ++ quote program ++ ": " ++ error.reason ++ "\n" ++ advice
        status := if isMissing then 127 else 126 }

/-- Arguments as they are shown before the program runs. -/
def showArguments (argv : List String) : String :=
  let lines := argv.zipIdx.map fun (arg, index) ↦
    "   arg[" ++ toString index ++ "]= " ++ quote arg ++ "\n"
  "executing: " ++ argv.headD "" ++ "\n" ++ String.join lines

/-- Run a program in an environment and a directory, or show the environment. -/
def env (execute : Execute) : Utility := fun name args ↦ do
  let process ← read
  let split (entry : Char × String) : Except String (List String) :=
    if entry.1 = 'S' then splitArguments process.lookUp? entry.2 else .ok []
  let opened (entry : Char × String) : List String := (split entry).toOption.getD []
  let bound := args.foldl (fun bound arg ↦ bound + arg.length + 1) 1
  let fail (report : Report) : Job Int := finish name { report with status := 125 }
  match readArguments envFlags false opened bound args with
  | .error message => fail (misuse name message)
  | .ok parsed =>
    if let some message := parsed.given.findSome? fun entry ↦
        match split entry with
        | .error message => some message
        | .ok _ => none then
      return ← fail (failure name message)
    let (isEmpty, operands) := match parsed.operands with
      | "-" :: operands => (true, operands)
      | operands => (parsed.has 'i', operands)
    let removed := (parsed.given.filter (·.1 = 'u')).map Prod.snd
    let isWrong (target : String) : Bool := target = "" || target.toList.contains '='
    if let some wrong := removed.find? isWrong then
      if !isEmpty then
        return ← fail (failure name ("cannot unset " ++ quote wrong ++ ": Invalid argument"))
    let assigned := operands.takeWhile fun operand ↦ operand.toList.contains '='
    let argv := operands.drop assigned.length
    let environment := environmentAfter process.environment isEmpty removed assigned
    if argv.isEmpty then
      if parsed.has 'C' then fail (misuse name "must specify command with --chdir (-C)")
      else
        let ending := if parsed.has '0' then "\x00" else "\n"
        let isWritten ← put name (showVariables environment ending)
        return if isWritten then 0 else 125
    else if parsed.has '0' then fail (misuse name "cannot specify --null (-0) with command")
    else
      let directory := (parsed.value? 'C').getD "."
      let tree := (← get).tree
      let place := do
        let node ← tree.stat process.cwd (Octets.toText directory)
        if node.isDirectory then tree.locate process.cwd (Octets.toText directory)
        else throw FileError.notDirectory
      match parsed.value? 'C', place with
      | some directory, .error error =>
        fail (failure name
          ("cannot change directory to " ++ quote directory ++ ": " ++ error.reason))
      | _, place =>
        let cwd := place.toOption.getD process.cwd
        if parsed.has 'v' then Job.complain (showArguments argv)
        ReaderT.adapt (fun (process : Process) ↦ { process with cwd, environment })
          (becomeProgram execute name argv)

end LineShell.Utility
