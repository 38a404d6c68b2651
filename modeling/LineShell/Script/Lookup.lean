import LineShell.Script.Directory
import LineShell.Script.Signals
import LineShell.Script.Grammar
import LineShell.Script.Variables

/-!
# What a name calls

A command is called by a name. The name may be that of a function, of a command of the interpreter
itself, or of a program, which is looked for along the search path of the script. A function may
stand in the way of a command, but not of one that changes how the script goes on.

A name with a slash is the path of a program.
-/

namespace LineShell.Script

/-! ## Commands of the interpreter -/

/-- The commands of the interpreter that run no other commands. -/
def plainBuiltins : List (String × Builtin) :=
  [(":", Builtin.constant 0), ("true", Builtin.constant 0), ("false", Builtin.constant 1),
    ("times", fun _ ↦ Builtin.putLines ["0m0.000000s 0m0.000000s", "0m0.000000s 0m0.000000s"]),
    ("ulimit", fun _ ↦ Builtin.putLines ["unlimited"]), ("jobs", Builtin.constant 0),
    ("bg", fun _ ↦ Act.fail "No current job"), ("fg", fun _ ↦ Act.fail "No current job"),
    ("echo", Builtin.echo), ("printf", Builtin.printf), ("test", Builtin.test),
    ("[", Builtin.bracket), ("umask", Builtin.mask), ("alias", Builtin.aliasNames),
    ("unalias", Builtin.unalias), ("export", Builtin.handOn), ("readonly", Builtin.readonly),
    ("local", Builtin.makeOwn), ("unset", Builtin.unset), ("set", Builtin.set),
    ("shift", Builtin.shift), ("getopts", Builtin.getopts), ("read", Builtin.read),
    ("kill", Builtin.kill), ("trap", Builtin.trap), ("wait", Builtin.wait), ("cd", Builtin.cd),
    ("chdir", Builtin.cd), ("pwd", Builtin.pwd)]

/-- The commands of the interpreter that run or look for other commands, or leave the path of the
script. -/
def otherBuiltins : List String :=
  [".", "break", "command", "continue", "eval", "exec", "exit", "hash", "return", "type"]

/-- Whether a name is that of a command of the interpreter. -/
def isBuiltin (name : String) : Bool :=
  otherBuiltins.contains name || plainBuiltins.any (·.1 = name)

/-- Whether a name is that of a command that no function stands in the way of. -/
def isSpecialBuiltin (name : String) : Bool :=
  Reader.specialBuiltins.contains name

/-! ## Programs -/

/-- The search path that a script has at the start. -/
def defaultSearchPath : String :=
  "/usr/local/sbin:/usr/local/bin:/usr/sbin:/usr/bin:/sbin:/bin"

/-- The paths that a name has along a search path. -/
def pathsAlong (searchPath name : String) : List String :=
  (searchPath.splitOn ":").map fun directory ↦
    if directory = "" then name else directory ++ "/" ++ name

/-- The first of several paths where there is a program, or why there is none. -/
def firstProgram : FileError → List String → Act (Except FileError String)
  | error, [] => return .error error
  | error, path :: rest => do
    match ← Act.job (Job.stat path) with
    | .ok node =>
      if node.isFile && node.isExecutable then return .ok path
      else firstProgram .permissionDenied rest
    | .error found =>
      let isMissing := found = .noEntry || found = .notDirectory
      firstProgram (if isMissing then error else found) rest

/-- What the user is told about a program that cannot be run. -/
def programProblem : FileError → String
  | .noEntry | .notDirectory => "not found"
  | error => error.reason

/-- Look for a program along a search path, unless its name is a path. -/
def findProgram (searchPath name : String) : Act (Except FileError String) := do
  if name.toList.contains '/' then return .ok name
  else match (← get).known.find? (·.1 = name) with
  | some (_, path) => return .ok path
  | none =>
    let found ← firstProgram .noEntry (pathsAlong searchPath name)
    if let .ok path := found then
      modify fun run ↦ { run with known := run.known ++ [(name, path)] }
    return found

/-- The search path of the script. -/
def searchPath : Act String :=
  return ((← get).lookUp? "PATH").getD ""

/-- Look for the program that a command names before it runs apart, so that the script knows where
it is. -/
def rememberProgram : Statement → Act Unit
  | .simple _ _ (word :: _) _ => do
    let run ← get
    let name := (Word.plain? word).getD ""
    let isOther := isBuiltin name || run.functions.any (·.1 = name)
    if isName name && !isOther then discard (findProgram (← searchPath) name)
  | _ => return ()

/-! ## Showing -/

/-- Show what a name calls, in words or only so that it can be called. -/
def describe (inWords : Bool) (searchPath name : String) : Act Int := do
  let run ← get
  let say (words : String) : Act Int :=
    Builtin.putLines [if inWords then name ++ words else name]
  let isPath := name.toList.contains '/'
  if keywords.contains name then say " is a shell keyword"
  else match run.aliases.find? (·.1 = name) with
  | some (_, value) =>
    if inWords then say (" is an alias for " ++ value)
    else Builtin.put ("alias " ++ Builtin.showAlias name value)
  | none =>
    if isSpecialBuiltin name then say " is a special shell builtin"
    else if run.functions.any (·.1 = name) then say " is a shell function"
    else if isBuiltin name then say " is a shell builtin"
    else
      let isKnown := run.known.any (·.1 = name)
      let found ← findProgram searchPath name
      let isThere ← if isPath then (·.isSome) <$> Act.job (Job.stat? name) else pure true
      match found, isThere with
      | .ok path, true =>
        if inWords then say ((if isKnown then " is a tracked alias for " else " is ") ++ path)
        else Builtin.putLines [path]
      | _, _ =>
        if inWords then discard (say ": not found")
        return 127

/-- Show what names call. -/
def describeAll : Builtin := fun names ↦ do
  let path ← searchPath
  let statuses ← names.mapM (describe true path)
  return if statuses.all (· == 0) then 0 else 127

/-- Look for programs, or show or forget those that were looked for. -/
def hash : Builtin := fun args ↦ do
  let (given, names) ← Builtin.options "rv" args
  if !given.isEmpty then modify fun run ↦ { run with known := [] }
  if names.isEmpty then Builtin.putLines ((← get).known.map Prod.snd)
  else
    let path ← searchPath
    let statuses ← names.mapM fun name ↦ do
      if isBuiltin name || (← get).functions.any (·.1 = name) then return (0 : Int)
      match ← findProgram path name with
      | .ok _ => return 0
      | .error error =>
        Act.complain (name ++ ": " ++ programProblem error)
        return 1
    return if statuses.all (· == 0) then 0 else 1

end LineShell.Script
