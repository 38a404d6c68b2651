import LineShell.Script.Builtin

/-!
# The directory of a script

A script remembers the path by which it came to its directory, in which links are not followed. A
step up takes the last name of that path away. Two variables hold the path and the one before it.
-/

namespace LineShell.Script

/-- Come to a directory by a path. -/
def Run.enter (run : Run) (place : Place) (directory : String) : Run :=
  let before := run.directory
  let exported (run : Run) (name value : String) : Run :=
    run.bind name { (run.binding? name).getD {} with value := some value, isExported := true }
  let run := exported (exported run "OLDPWD" before) "PWD" directory
  { run with directory, process := { run.process with cwd := place } }

namespace Builtin

/-- The place of the directory that a path leads to, if it does. -/
def directoryAt? (path : String) : Act (Option Place) := do
  let run ← get
  return (run.system.tree.workingPlace run.process.cwd (Octets.toText path)).toOption

/-- Go to a directory; the answer tells whether that was possible. -/
def goTo (isPhysical : Bool) (path : String) : Act Bool := do
  let run ← get
  let logical := Path.normalize (Path.join run.directory path)
  match ← directoryAt? (if isPhysical then path else logical) with
  | none => return false
  | some place =>
    set (run.enter place (if isPhysical then Octets.ofText place.path else logical))
    return true

/-- Whether a path is looked for from the current directory only. -/
def isFixed (path : String) : Bool :=
  Path.isAbsolute path || (path.splitOn "/").head?.any (· ∈ [".", ".."])

/-- The first directory of those that are searched to which a path leads. An empty one is where the
script is. -/
def search? (path : String) : List String → Act (Option (String × Bool))
  | [] => return none
  | base :: rest => do
    let candidate := if base = "" then path else base ++ "/" ++ path
    if (← directoryAt? candidate).isSome then return some (candidate, base != "")
    else search? path rest

/-- Change the directory. -/
def cd : Builtin := fun args ↦ do
  let (given, args) ← options "LP" args
  let isPhysical := given.getLast?.any (·.1 = 'P')
  let run ← get
  let (target, isShown) := match args with
    | [] => ((run.lookUp? "HOME").getD "", false)
    | "-" :: _ => ((run.lookUp? "OLDPWD").getD "", true)
    | path :: _ => (path, false)
  let path := if target = "" then "." else target
  let found ← if isFixed path then pure none
    else search? path (((run.lookUp? "CDPATH").getD "").splitOn ":")
  let (path, isShown) := match found with
    | some (found, isElsewhere) => (found, isShown || isElsewhere)
    | none => (path, isShown)
  if ← goTo isPhysical path then
    if isShown then discard (putLines [(← get).directory])
    return 0
  else Act.fail ("can't cd to " ++ target)

/-- Show the directory. -/
def pwd : Builtin := fun args ↦ do
  let (given, _) ← options "LP" args
  let run ← get
  let isPhysical := given.getLast?.any (·.1 = 'P')
  putLines [if isPhysical then Octets.ofText run.process.cwd.path else run.directory]

end Builtin

end LineShell.Script
