import LineShell.Procedure
import LineShell.Text.Integer

/-!
# The commands of the shell

The five commands that every shell knows: `exit` and `type` are about the shell itself, `cd` and
`pwd` about its working directory, and `echo` prints its arguments. Each is a procedure.
-/

namespace LineShell.Builtin

/-- Stop the shell. The status is the argument modulo 256; without an argument it is zero, and an
argument that is no integer makes it 2. -/
def exit : Handler
  | [] => .requestExit 0 (.reply {})
  | status :: _ =>
    match Text.integer? status with
    | some number => .requestExit (number % 256) (.reply {})
    | none =>
      .requestExit 2 (.reply (.failure ("exit: " ++ status ++ ": numeric argument required") 2))

/-- Tell of each name what it stands for, after what was printed already. -/
def typeFrom (printed : String) (missing : Bool) : List String → Procedure
  | [] => .reply { stdout := printed, exitCode := if missing then 1 else 0 }
  | name :: rest =>
    .resolve name fun resolution ↦
      typeFrom (printed ++ line (resolution.verdict name)) (missing || !resolution.found) rest

/-- Tell what names stand for. -/
def type : Handler
  | [] => .reply (.failure "type: missing operand" 2)
  | names => typeFrom "" false names

/-- Change the working directory, to the home directory if no location is given. -/
def cd (args : List String) : Procedure :=
  let location := args.headD "~"
  let refuse (reason : String) : Procedure := .refuse ("cd: " ++ location ++ ": " ++ reason)
  .session fun session ↦
    let target := session.expand location
    .stat target fun node? ↦
      match node? with
      | none => refuse FileError.noEntry.reason
      | some node =>
        if node.isDirectory then
          .chdir target fun
            | .ok () => .reply {}
            | .error (.file .permissionDenied) => refuse FileError.permissionDenied.reason
            | .error error => .crash (error.report target)
        else refuse FileError.notDirectory.reason

/-- Print the working directory. -/
def pwd : Handler := fun _ ↦
  .session fun session ↦ .reply (.output [session.cwd])

/-- Print the arguments, a space between each two. -/
def echo : Handler := fun args ↦
  .reply (.output [" ".intercalate args])

end LineShell.Builtin
