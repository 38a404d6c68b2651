import LineShell.Script.World

/-!
# The interpreter

Statements run by recursion on what they are made of; what they call is run by the world they are
given. A simple command is run in a fixed order: its words are expanded, its redirections followed,
its assignments made, and only then is it looked for what its name calls.

A command fails with a status, and the script goes on, unless it has been told to stop at failures.
An error stops the script at once; but where a command of the interpreter has been called by way of
another one, an error only ends that command.

The world in turn is made of the interpreter, with a bound on how deeply what is called may call
again.
-/

namespace LineShell.Script

/-! ## Programs -/

/-- Whether a file that the system cannot run may be a script: its first line holds no control
characters besides blanks and an escape. -/
def isScript (content : Bytes) : Bool :=
  let line := (content.take 128).takeWhile (· != 10)
  line.all fun byte ↦
    let number := byte.toNat
    9 ≤ number && number ≤ 15 || number = 27 || 32 ≤ number && number ≠ 127

namespace World

/-- Start the program at a path. A file that is no program but may be a script is interpreted. -/
def startAt (world : World) (path name : String) (args : List String) :
    Act (Except FileError Int) := do
  let environment := (← get).exported
  let execute (path : String) (argv : List String) : Act (Except FileError Int) :=
    Act.job fun process ↦ world.execute path argv { process with environment }
  match ← execute path (name :: args) with
  | .error .notExecutable =>
    match ← Act.job (Job.readFile path) with
    | .ok content =>
      if isScript content then execute "/bin/sh" ("/bin/sh" :: path :: args)
      else return .error .notExecutable
    | .error error => return .error error
  | answer => return answer

/-- Start the first of several paths at which there is a program that can be run. -/
def startFirst (world : World) (name : String) (args : List String) :
    FileError → List String → Act (Except FileError Int)
  | error, [] => return .error error
  | error, path :: rest => do
    match ← world.startAt path name args with
    | .ok ended => return .ok ended
    | .error found =>
      let isMissing := found = .noEntry || found = .notDirectory
      startFirst world name args (if isMissing then error else found) rest

/-- Start a program: its status, or the negative number of the signal that has ended it. -/
def start (world : World) (searchPath path name : String) (args : List String) : Act Int := do
  let paths := if name.toList.contains '/' then [name]
    else (pathsAlong searchPath name).dropWhile (· ≠ path)
  match ← world.startFirst name args .noEntry paths with
  | .ok ended => return ended
  | .error error =>
    Act.complain (name ++ ": " ++ programProblem error)
    return if error ∈ [.noEntry, .notDirectory, .nameTooLong, .tooManyLinks] then 127 else 126

/-- Look for a program and start it. -/
def call (world : World) (searchPath name : String) (args : List String) : Act Int := do
  match ← findProgram searchPath name with
  | .ok path => world.start searchPath path name args
  | .error error =>
    Act.complain (name ++ ": " ++ programProblem error)
    return 127

/-- Run a program, which takes the place of the script if nothing comes after it. -/
def runProgram (world : World) (mode : Mode) (searchPath name : String) (args : List String) :
    Act Unit := do
  let ended ← world.call searchPath name args
  if mode.isLast && (← get).traps.isEmpty then throw (.replaced ended)
  Act.settle ended

/-! ## Functions -/

/-- How many functions may be running. -/
def maxCalls : Nat := 1000

/-- Call a function. -/
def callFunction (world : World) (mode : Mode) (body : Statement) (arguments : List String) :
    Act Unit := do
  let outer ← get
  if maxCalls ≤ outer.calls then
    Act.fail ("Maximum function recursion depth (" ++ toString maxCalls ++ ") reached")
  modify fun run ↦
    { run with arguments, loops := 0, optionOffset := 0, calls := outer.calls + 1 }
  Act.ensuring
    (Act.withLocals do
      match ← Act.outcome (world.evaluate { tested := mode.tested } body) with
      | some (.endFunction status) => Act.setStatus status
      | some stop => throw stop
      | none => return ())
    (modify fun run ↦ { run with
      arguments := outer.arguments
      loops := outer.loops
      optionOffset := outer.optionOffset
      calls := outer.calls })

/-! ## Commands that run others -/

/-- The file that a name leads to, for a script that reads it. -/
def findFile (name : String) : Act String := do
  if name.toList.contains '/' then return name
  let paths := pathsAlong (← searchPath) name
  let found ← paths.filterM fun path ↦ return ((← Act.job (Job.stat? path)).any Node.isFile)
  match found with
  | path :: _ => return path
  | [] => Act.fail (name ++ ": not found")

/-- Read a file as a part of the script. -/
def readFile (world : World) : Builtin := fun args ↦ do
  match ← Builtin.operands args with
  | [] => return 0
  | name :: _ =>
    let path ← findFile name
    let content ← match ← Act.job (Job.readFile path) with
      | .ok content => pure content
      | .error .isDirectory => pure []
      | .error error => Act.fail (openingProblem .input path error)
    modify fun run ↦ { run with speaker := some path }
    match ← Act.outcome (world.runWithin {} (Octets.ofBytes content)) with
    | some (.endFunction status) => return status
    | some stop => throw stop
    | none => return (← get).status

/-- Leave loops. -/
def leaveLoops (stop : Nat → Stop) : Builtin := fun args ↦ do
  let count ← match args with
    | [] => pure 1
    | text :: _ => Builtin.number text
  if count = 0 then Act.fail ("Illegal number: " ++ args.headD "")
  let loops := min count (← get).loops
  Act.setStatus 0
  if loops = 0 then return 0 else throw (stop loops)

/-- Leave the script or a function with a status. -/
def leaveWith (stop : Int → Stop) : Builtin := fun args ↦ do
  let run ← get
  match args with
  | [] => throw (stop (run.handled.getD run.status))
  | text :: _ => throw (stop (← Builtin.number text))

/-- Let a program take the place of the script. -/
def replace (world : World) : Builtin := fun args ↦ do
  match ← Builtin.operands args with
  | [] => return 0
  | name :: args =>
    let path ← searchPath
    match ← findProgram path name with
    | .error error =>
      Act.complain (name ++ ": " ++ programProblem error)
      throw (.exit 127)
    | .ok found =>
      let ended ← world.start path found name args
      if ended = 126 || ended = 127 then throw (.exit ended) else throw (.replaced ended)

/-- Show what the first name calls. -/
def showCallee : Builtin := fun args ↦ do
  let (given, names) ← Builtin.options "pvV" args
  let path ← if given.any (·.1 = 'p') then pure defaultSearchPath else searchPath
  match names with
  | name :: _ =>
    if given.any fun entry ↦ entry.1 ≠ 'p' then describe (given.any (·.1 = 'V')) path name
    else return 0
  | [] => return 0

/-- What a command of the interpreter comes to. -/
def builtin (world : World) (mode : Mode) (name : String) (args : List String) : Act Int := do
  match name with
  | "." => world.readFile args
  | "break" => leaveLoops .endLoops args
  | "command" => showCallee args
  | "continue" => leaveLoops .nextRound args
  | "eval" =>
    world.runWithin { tested := mode.tested } (" ".intercalate args)
    return (← get).status
  | "exec" => world.replace args
  | "exit" => leaveWith .exit args
  | "hash" => hash args
  | "return" => leaveWith .endFunction args
  | "type" => describeAll args
  | name =>
    match plainBuiltins.find? (·.1 = name) with
    | some (_, builtin) => builtin args
    | none => return 127

/-- Run a command of the interpreter. An error in it goes no further if it is guarded. -/
def runBuiltin (world : World) (mode : Mode) (isGuarded : Bool) (name : String)
    (args : List String) : Act Unit := do
  let outer := (← get).speaker
  modify fun run ↦ { run with speaker := some name }
  let act : Act Int := Act.ensuring (world.builtin mode name args)
    (modify fun run ↦ { run with speaker := outer })
  try Act.setStatus (← act)
  catch stop =>
    match stop with
    | .failed status => if isGuarded then Act.setStatus status else throw stop
    | stop => throw stop

/-! ## Simple commands -/

/-- What a simple command calls, once its words have been expanded. -/
structure Call where
  fields : List String
  /-- Whether another command asks for it, so that functions do not count and errors go no
  further. -/
  isGuarded : Bool := false
  /-- Whether programs are looked for along the path that a script has at the start. -/
  usesDefault : Bool := false

/-- Read the options in front of the name that is to be called: whether the default path is used,
and what follows. There is no answer if something else is asked for. -/
def readCallOptions (usesDefault : Bool) : List String → Option (Bool × List String)
  | [] => none
  | argument :: rest =>
    match argument.toList with
    | ['-', '-'] => if rest.isEmpty then none else some (usesDefault, rest)
    | '-' :: c :: letters =>
      if (c :: letters).all (· == 'p') then readCallOptions true rest else none
    | _ => some (usesDefault, argument :: rest)

/-- The call that fields ask for, with so many commands in front that ask for another one. -/
def Call.ofFields : Nat → Call → Call
  | 0, call => call
  | steps + 1, call =>
    match call.fields with
    | "command" :: rest =>
      match readCallOptions call.usesDefault rest with
      | some (usesDefault, fields) =>
        Call.ofFields steps { fields, isGuarded := true, usesDefault }
      | none => call
    | _ => call

/-- Whether the arguments of a command may be assignments. -/
def takesAssignments (fields : List String) : Bool :=
  match fields.dropWhile (· == "command") with
  | name :: _ => name ∈ ["export", "readonly", "local"]
  | [] => false

/-- The fields of the words of a command, after those in front. -/
def expandWords (how : Expander) : List String → List Word → Act (List String)
  | fields, [] => return fields
  | fields, word :: rest => do
    match (if takesAssignments fields then word.assignment? else none) with
    | some (name, value) =>
      let value ← valueOfWord how value
      expandWords how (fields ++ [name ++ "=" ++ value]) rest
    | none => expandWords how (fields ++ (← fieldsOf how word)) rest

/-- Assign the values of words, in order; the answer shows what was assigned. -/
def assignAll (how : Expander) (isExported : Bool) :
    List (String × Word) → Act (List String)
  | [] => return []
  | (name, word) :: rest => do
    let value ← valueOfWord how word
    Act.assign name value
    if isExported then
      modify fun run ↦ run.bind name { (run.binding? name).getD {} with isExported := true }
    return (name ++ "=" ++ value) :: (← assignAll how isExported rest)

/-- Show a command before it runs, if that was asked for. -/
def trace (world : World) (channel? : Option Nat) (shown : List String) : Act Unit := do
  if (← get).has 'x' then
    let mark ← world.traceMark
    modify fun run ↦
      let text := mark ++ " ".intercalate shown ++ "\n"
      match channel?.map fun channel ↦ run.system.writeTo channel (Octets.toBytes text) with
      | some (.ok system) => { run with system }
      | _ => run

/-- Run what a call asks for. -/
def runCall (world : World) (mode : Mode) (call : Call) : Act Unit := do
  let run ← get
  match call.fields with
  | [] => Act.setStatus run.substituted
  | name :: args =>
    let function? := if call.isGuarded || isSpecialBuiltin name then none
      else run.functions.find? (·.1 = name)
    match function? with
    | some (_, body) => world.callFunction mode body args
    | none =>
      if isBuiltin name then
        world.runBuiltin mode (call.isGuarded || !isSpecialBuiltin name) name args
      else
        let path ← if call.usesDefault then pure defaultSearchPath else searchPath
        world.runProgram mode path name args

/-- Do something with assignments that last as long, or longer if they are to remain. -/
def withAssignments (how : Expander) (remain isExported : Bool)
    (assignments : List (String × Word)) (body : List String → Act Unit) : Act Unit := do
  let before ← get
  let act : Act Unit := do body (← assignAll how (isExported || !remain) assignments)
  if remain || assignments.isEmpty then act
  else
    Act.ensuring act <| modify fun run ↦
      assignments.foldl (fun run (name, _) ↦
        match before.binding? name with
        | some binding => run.bind name binding
        | none => run.unbind name) run

/-- Run a simple command. -/
def runSimple (world : World) (mode : Mode) (line : Nat) (assignments : List (String × Word))
    (words : List Word) (redirects : List Redirect) : Act Unit := do
  if (← get).has 'n' then return ()
  modify fun run ↦ { run with line, substituted := 0 }
  let how := world.expander
  let fields ← expandWords how [] words
  let call := Call.ofFields fields.length { fields }
  let name := call.fields.headD ""
  let isSpecial := !call.isGuarded && isSpecialBuiltin name
  let process := (← get).process
  let body : Act Unit := do
    if ← redirect how redirects then
      withAssignments how (fields.isEmpty || isSpecial) (name = "exec") assignments fun assigned ↦ do
        world.trace (process.channel? 2) (assigned ++ fields)
        world.runCall mode call
      if name = "exec" && call.fields.length = 1 then return ()
    else
      Act.setStatus 2
      if isSpecial then throw (.failed 2)
    modify fun run ↦
      { run with process := { run.process with descriptors := process.descriptors } }
  try body
  catch stop =>
    modify fun run ↦
      { run with process := { run.process with descriptors := process.descriptors } }
    throw stop

/-! ## Loops -/

/-- Run a round of a loop. The answer tells whether the loop goes on. -/
def runRound (round : Act Unit) : Act Bool := do
  match ← Act.outcome round with
  | none => return true
  | some (.endLoops count) => if count ≤ 1 then return false else throw (.endLoops (count - 1))
  | some (.nextRound count) => if count ≤ 1 then return true else throw (.nextRound (count - 1))
  | some stop => throw stop

/-- Do something as a loop. -/
def asLoop (act : Act Unit) : Act Unit := do
  modify fun run ↦ { run with loops := run.loops + 1 }
  Act.ensuring act (modify fun run ↦ { run with loops := run.loops - 1 })

/-- The most rounds that a loop runs. -/
def maxRounds : Nat := 10000000

/-- Run a body as long as a test ends as wanted, after a round that ended with a status. -/
def runWhile (wanted : Bool) (test body : Act Unit) : Nat → Int → Act Unit
  | 0, _ => throw .exhausted
  | rounds + 1, last => do
    let goesOn ← runRound test
    if !goesOn then Act.setStatus last
    else if ((← get).status == 0) == wanted then
      if ← runRound body then runWhile wanted test body rounds (← get).status
    else Act.setStatus last

/-- Run a body for each of several values of a variable. -/
def runEach (name : String) (body : Act Unit) : List String → Act Unit
  | [] => return ()
  | value :: rest => do
    Act.assign name value
    if ← runRound body then runEach name body rest

/-! ## Statements -/

/-- Run something whose failure stops the script if it was told so. -/
def checked (world : World) (mode : Mode) (act : Act Unit) : Act Unit := do
  act
  world.handlePending
  let run ← get
  if run.has 'e' && !mode.tested && run.status ≠ 0 then throw (.exit run.status)

/-- Run something apart, and take its status. -/
def runSubshell (world : World) (mode : Mode) (act : Act Unit) : Act Unit := do
  let ended ← world.runApart act
  if ended < 0 && mode.isLast && (← get).traps.isEmpty then throw (.replaced ended)
  Act.settle ended

mutual

/-- Run a statement. -/
def run (world : World) (mode : Mode) : Statement → Act Unit
  | .nothing => return ()
  | .simple line assignments words redirects =>
    world.checked mode (world.runSimple mode line assignments words redirects)
  | .sequence first second => do
    run world { tested := mode.tested } first
    run world mode second
  | .both first second => do
    run world { tested := true } first
    if (← get).status = 0 then run world mode second
  | .either first second => do
    run world { tested := true } first
    if (← get).status ≠ 0 then run world mode second
  | .negated body => do
    run world { tested := true } body
    Act.setStatus (if (← get).status = 0 then 1 else 0)
  | .pipeline stages =>
    world.checked mode (runStages world mode none stages)
  | .background body => do
    let channel ← addChannel (.device .null)
    let ended ← world.runBetween [(0, channel)] (run world { isLast := true } body)
    modify fun run ↦
      let process := run.number + run.background.length + 1
      { run with background := (process, ended) :: run.background, status := 0 }
  | .subshell line body redirects => do
    modify fun run ↦ { run with line }
    let routes ← redirects.mapM (routeOf world.expander)
    world.checked mode <| world.runSubshell mode do
      if ← followAll world.expander routes then run world { mode with isLast := true } body
      else throw (.exit 2)
  | .redirected line body redirects => do
    modify fun run ↦ { run with line }
    withRedirects world.expander redirects (run world { tested := mode.tested } body)
      (Act.setStatus 2)
  | .conditional test yes no => do
    run world { tested := true } test
    if (← get).status = 0 then run world mode yes
    else match no with
    | .nothing => Act.setStatus 0
    | no => run world mode no
  | .loop wanted test body =>
    asLoop (runWhile wanted (run world { tested := true } test)
      (run world { tested := mode.tested } body) maxRounds 0)
  | .each line name items body => do
    modify fun run ↦ { run with line }
    let fields ← expandWords world.expander [] items
    if fields.isEmpty then Act.setStatus 0
    asLoop (runEach name (run world { tested := mode.tested } body) fields)
  | .choice line subject clauses => do
    modify fun run ↦ { run with line }
    let text ← textOfWord world.expander subject
    runClauses world mode text clauses
  | .function _ name body =>
    modify fun run ↦
      { run with functions := (name, body) :: run.functions.filter (·.1 ≠ name), status := 0 }

/-- Run the stages of a pipeline, the first of which may read a channel. -/
def runStages (world : World) (mode : Mode) (input? : Option Nat) : List Statement → Act Unit
  | [] => return ()
  | stage :: rest => do
    rememberProgram stage
    let input := input?.toList.map fun channel ↦ (0, channel)
    let inner : Mode := { mode with isLast := true }
    if rest.isEmpty then Act.settle (← world.runBetween input (run world inner stage))
    else
      let channel ← addChannel (.pipe [] [])
      Act.settle (← world.runBetween ((1, channel) :: input) (run world inner stage))
      runStages world mode (some channel) rest

/-- Run the first clause with a pattern that fits a text. -/
def runClauses (world : World) (mode : Mode) (text : String) :
    List (List Word × Statement) → Act Unit
  | [] => Act.setStatus 0
  | (patterns, body) :: rest => do
    let isChosen ← patterns.anyM fun pattern ↦ do
      let glyphs ← glyphsOfWord world.expander pattern
      return Pattern.fits (Pattern.read glyphs) text.toList
    if isChosen then
      match body with
      | .nothing => Act.setStatus 0
      | body => run world mode body
    else runClauses world mode text rest

end

end World

/-! ## The whole -/

/-- Run statements, where what is called may call again so many times. -/
def evaluate (execute : Execute) : Nat → Mode → Statement → Act Unit
  | 0, _, _ => throw .exhausted
  | depth + 1, mode, statement =>
    World.run { execute, evaluate := evaluate execute depth } mode statement

/-- How deeply what is called may call again. -/
def maxDepth : Nat := 5000

/-- The world of a script at its start. -/
def world (execute : Execute) : World where
  execute
  evaluate := evaluate execute maxDepth

end LineShell.Script
