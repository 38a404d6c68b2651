import LineShell.Path

/-!
# Sessions

The state that belongs to one shell: where it works, where it looks for programs, and what `~`
stands for. A session is isolated from the process unless it follows it: then every change of its
working directory moves the process too.
-/

namespace LineShell

/-- One session of the shell. -/
structure Session where
  cwd : String
  searchPath : List String := []
  home : String
  /-- Whether the working directory of the process moves with that of the session. -/
  followProcess : Bool := false
  deriving DecidableEq, Repr

namespace Session

/-- The normal form of a path, seen from the working directory of the session. -/
def resolvePath (session : Session) (path : String) : String :=
  Path.normalize (Path.join session.cwd path)

/-- The directories to look for programs in, in order. A relative entry is seen from the working
directory of the session. -/
def searchDirs (session : Session) : List String :=
  session.searchPath.map fun entry ↦
    if Path.isAbsolute entry then entry else session.resolvePath entry

/-- The path that a location means. A tilde in front stands for the home directory, whatever comes
after it; slashes between the two do not count. -/
def expand (session : Session) (location : String) : String :=
  match location.toList with
  | '~' :: rest =>
    Path.normalize (Path.join session.home (String.ofList (rest.dropWhile (· == '/'))))
  | _ => session.resolvePath location

end Session

end LineShell
