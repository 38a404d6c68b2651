import LineShell.Host
import LineShell.Session

/-!
# Resolution of command names

What a command name stands for: a command of the shell, a program on the host, or nothing. Commands
of the shell come first. A name with a slash is a path; any other is looked for in the directories
of the search path, and the first one that holds a program of that name wins. Files that may not be
run, directories and links to nowhere are passed over. Nothing is remembered between two lookups.
-/

namespace LineShell

/-- What a command name stands for. -/
inductive Resolution where
  | builtin
  | external (path : String)
  | notFound
  deriving DecidableEq, Repr

namespace Resolution

/-- Whether a name stands for anything. -/
def found : Resolution → Bool
  | .notFound => false
  | _ => true

/-- The path of the program that a name stands for. -/
def path? : Resolution → Option String
  | .external path => some path
  | _ => none

/-- The sentence that tells what a name stands for. -/
def verdict (name : String) : Resolution → String
  | .builtin => name ++ " is a shell builtin"
  | .external path => name ++ " is " ++ path
  | .notFound => name ++ ": not found"

end Resolution

/-- The program that a name leads to. -/
def findExecutable (host : Host) (session : Session) (name : String) : Option String :=
  if name.toList.contains '/' then
    let path := session.resolvePath name
    if host.canRun path then some path else none
  else
    (session.searchDirs.map fun directory ↦ Path.join directory name).find? host.canRun

/-- What a name stands for, given whether the shell has a command of that name. -/
def resolveName (isCommand : Bool) (host : Host) (session : Session) (name : String) : Resolution :=
  if isCommand then .builtin
  else match findExecutable host session name with
    | some path => .external path
    | none => .notFound

/-- A program that was found may be run. -/
theorem canRun_of_findExecutable {host : Host} {session : Session} {name path : String}
    (h : findExecutable host session name = some path) : host.canRun path = true := by
  unfold findExecutable at h
  split at h
  · dsimp only at h
    split at h <;> simp_all
  · exact List.find?_some h

end LineShell
