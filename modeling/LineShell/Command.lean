import LineShell.Token
import LineShell.Redirection

/-!
# Commands

What one line asks for: a command by its name, the arguments for it, and where its output goes. The
first token is the name whatever it looks like; redirections are taken out of the tokens after it.
-/

namespace LineShell

/-- A command as a line gives it. -/
structure Command where
  name : String
  args : List String := []
  plan : Redirection.Plan := {}
  deriving DecidableEq, Repr

/-- The command that a list of tokens gives, if there is a token at all. -/
def Command.ofTokens? : List String → Option Command
  | [] => none
  | name :: rest =>
    let (args, plan) := Redirection.extract rest
    some ⟨name, args, plan⟩

/-- The command on a line, unless the line holds no token. -/
def Command.parse? (line : String) : Option Command :=
  Command.ofTokens? (tokenize line)

end LineShell
