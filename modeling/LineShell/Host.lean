import LineShell.FileTree.Walk
import LineShell.Text.Quoted

/-!
# The host

What the shell sees of the machine that it runs on: a file tree, the working directory of the
process, and the bytes that child processes have written to the streams they inherited. The shell
names files by paths in text form; a relative path starts at the working directory of the process,
not at that of the session.

Paths that hold a NUL character are refused by every operation that opens something. A question
about such a path is answered as if nothing stood there.
-/

namespace LineShell

/-- The machine around the shell. -/
structure Host where
  tree : FileTree := {}
  /-- The working directory of the process. -/
  cwd : Place := []
  /-- What child processes wrote to the standard output they inherited. -/
  childStdout : Bytes := []
  /-- What child processes wrote to the standard error they inherited. -/
  childStderr : Bytes := []
  deriving DecidableEq, Repr

/-- Why a path cannot be opened. -/
inductive PathError where
  | hasNul
  | file (error : FileError)
  deriving DecidableEq, Repr

/-- What the system says when the process cannot go where a path leads. -/
def PathError.report (path : String) : PathError → String
  | .hasNul => "chdir: embedded null character in path"
  | .file error =>
    "[Errno " ++ toString error.number ++ "] " ++ error.reason ++ ": " ++ Text.quoted path

namespace Host

/-- Do something with a path, unless it holds a NUL character. -/
def open? {α : Type} (path : String) (action : Except FileError α) : Except PathError α :=
  if Path.hasNul path then .error .hasNul else action.mapError .file

/-- What stands where a path leads, if anything does. -/
def stat? (host : Host) (path : String) : Option Node :=
  (open? path (host.tree.stat host.cwd path)).toOption

/-- Whether a path leads to a regular file that may be run. -/
def canRun (host : Host) (path : String) : Bool :=
  match host.stat? path with
  | some node => node.isFile && node.isExecutable
  | none => false

/-- The names in a directory. -/
def list (host : Host) (path : String) : Except PathError (List String) :=
  open? path (host.tree.list host.cwd path)

/-- Write to a file. -/
def write (host : Host) (mode : WriteMode) (path : String) (data : Bytes) :
    Except PathError Host := do
  let tree ← open? path (host.tree.write host.cwd mode path data)
  return { host with tree }

/-- Make a directory the working directory of the process. -/
def chdir (host : Host) (path : String) : Except PathError Host := do
  let place ← open? path (host.tree.workingPlace host.cwd path)
  return { host with cwd := place }

end Host

end LineShell
