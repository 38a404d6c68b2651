import LineShell.Path
import LineShell.Process.Basic

/-!
# Looking for programs

A program that is called by a name without a slash is looked for in the directories of the search
path, one after the other. It may stand in one where it cannot be run; then the search goes on, and
only if nothing else is found, this is the reason.
-/

namespace LineShell

/-- The directories that are searched for a program if the environment names none. -/
def defaultDirectories : List String :=
  ["/bin", "/usr/bin"]

/-- The paths at which a program of a name is looked for. -/
def programPaths (searchPath? : Option String) (name : String) : List String :=
  if name.toList.contains '/' then [name]
  else
    let directories := match searchPath? with
      | some searchPath => searchPath.splitOn ":"
      | none => defaultDirectories
    directories.map fun directory ↦ Path.join directory name

/-- Run the first of several programs that can be run. If there is none, the first real obstacle is
the reason, or else that nothing was found. -/
def executeFirst (execute : Execute) (argv : List String) (obstacle? : Option FileError)
    (last : FileError) : List String → Job (Except FileError Int)
  | [] => return .error (obstacle?.getD last)
  | path :: rest => do
    match ← execute path argv with
    | .ok ended => return .ok ended
    | .error error =>
      let isMissing := error = .noEntry || error = .notDirectory
      let obstacle? := if isMissing then obstacle? else some (obstacle?.getD error)
      executeFirst execute argv obstacle? error rest

/-- Run the program of a name, which the arguments begin with. -/
def executeNamed (execute : Execute) (argv : List String) : Job (Except FileError Int) := do
  let paths := programPaths ((← read).lookUp? "PATH") (argv.headD "")
  executeFirst execute argv none .noEntry paths

/-- Run the program at a path; what the system cannot run is read as a script. -/
def executeOrInterpret (execute : Execute) : Execute := fun path argv ↦ do
  match ← execute path argv with
  | .error .notExecutable => execute "/bin/sh" ("/bin/sh" :: path :: argv.tail)
  | answer => return answer

end LineShell
