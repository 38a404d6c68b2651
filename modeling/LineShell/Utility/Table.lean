import LineShell.Utility.Cat
import LineShell.Utility.Condition
import LineShell.Utility.Echo
import LineShell.Utility.Environment
import LineShell.Utility.Listing
import LineShell.Utility.Plain
import LineShell.Utility.Printf

/-!
# The utilities of a machine

Which utility has which name. Most of them only do what they are given; a few run another program,
and are given how that is done.
-/

namespace LineShell.Utility

/-- The utilities that run no other program. -/
def table : List (String × Utility) :=
  [("[", bracket), ("basename", basename), ("cat", cat), ("chmod", chmod), ("cp", cp),
    ("dirname", dirname), ("echo", echo), ("false", fail), ("head", head), ("ln", ln), ("ls", ls),
    ("mkdir", mkdir), ("mv", mv), ("printenv", printenv), ("printf", printf), ("pwd", pwd),
    ("readlink", readlink), ("realpath", realpath), ("rm", rm), ("rmdir", rmdir), ("seq", seq),
    ("sleep", sleep), ("tac", tac), ("tail", tail), ("tee", tee), ("test", test),
    ("touch", touch), ("true", succeed), ("wc", wc)]

/-- The utilities that run another program. -/
def runners (execute : Execute) : List (String × Utility) :=
  [("env", env execute)]

/-- The names of all utilities. -/
def names : List String :=
  table.map Prod.fst ++ (runners fun _ _ ↦ return .ok 0).map Prod.fst

/-- The utility of a name, given how programs are run. -/
def find? (execute : Execute) (name : String) : Option Utility :=
  ((table ++ runners execute).find? (·.1 = name)).map Prod.snd

end LineShell.Utility
