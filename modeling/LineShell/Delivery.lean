import LineShell.Host
import LineShell.Redirection

/-!
# Delivery of output to files

A redirection target is opened twice. Before the command runs, every target that is to be emptied
is emptied, the one of the standard output first, so that a command with an unusable target never
runs; a target that is appended to is left alone then. After the command has run, each stream is
written to its target. Both times the path of the target is seen from the directory that the session
had before the command.
-/

namespace LineShell.Redirection

/-- Why a target cannot be used. -/
inductive TargetError where
  /-- Its path holds a NUL character. -/
  | hasNul
  /-- The system refuses it. -/
  | refused (path : String) (error : FileError)
  deriving DecidableEq, Repr

/-- What the user is told. -/
def TargetError.message : TargetError → String
  | .hasNul => "embedded null byte"
  | .refused path error => path ++ ": " ++ error.reason

/-- Write to a target, whose path is seen from a directory. -/
def writeTarget (target : Target) (data : Bytes) (cwd : String) (host : Host) :
    Except TargetError Host :=
  match host.write target.mode (Path.anchor cwd target.path) data with
  | .ok host => .ok host
  | .error .hasNul => .error .hasNul
  | .error (.file error) => .error (.refused target.path error)

/-- Empty the targets that are to be emptied, up to the first that cannot be used. What was emptied
before that one stays empty. -/
def prepareTargets (cwd : String) : List Target → Host → Except TargetError Unit × Host
  | [], host => (.ok (), host)
  | target :: rest, host =>
    match target.mode with
    | .append => prepareTargets cwd rest host
    | .truncate =>
      match writeTarget target [] cwd host with
      | .ok host => prepareTargets cwd rest host
      | .error error => (.error error, host)

/-- Prepare a plan. -/
def Plan.prepare (plan : Plan) (cwd : String) (host : Host) : Except TargetError Unit × Host :=
  prepareTargets cwd plan.targets host

end LineShell.Redirection
