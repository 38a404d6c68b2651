import LineShell.Builtin
import LineShell.Names

/-!
# Tables of commands

A table of commands by name, in the order in which the names came in. There are two ways to put a
command into it: `register?` refuses a name that is taken, and `insert` gives the name a new command
and leaves it at its place.
-/

namespace LineShell

/-- Commands by name, in the order of their first registration. -/
structure CommandTable (α : Type) where
  entries : List (String × α) := []

/-- Why a command cannot be registered. -/
inductive RegistrationError where
  | taken (name : String)
  deriving DecidableEq, Repr

/-- What the user is told. -/
def RegistrationError.message : RegistrationError → String
  | .taken name => "Builtin '" ++ name ++ "' is already registered"

namespace CommandTable

variable {α : Type}

/-- The command of a name. -/
def find? (table : CommandTable α) (name : String) : Option α :=
  (table.entries.find? fun entry ↦ entry.1 = name).map Prod.snd

/-- Whether a name is taken. -/
def contains (table : CommandTable α) (name : String) : Bool :=
  table.entries.any fun entry ↦ entry.1 = name

/-- The names in the order of their registration. -/
def names (table : CommandTable α) : List String :=
  table.entries.map Prod.fst

/-- The names in order. -/
def sortedNames (table : CommandTable α) : List String :=
  Names.ofList table.names

/-- Give a new name a command. -/
def register? (table : CommandTable α) (name : String) (command : α) :
    Except RegistrationError (CommandTable α) :=
  if table.contains name then .error (.taken name) else .ok ⟨table.entries ++ [(name, command)]⟩

/-- Give a name a command, whether or not it has one. -/
def insert (table : CommandTable α) (name : String) (command : α) : CommandTable α :=
  if table.contains name then
    ⟨table.entries.map fun entry ↦ if entry.1 = name then (name, command) else entry⟩
  else ⟨table.entries ++ [(name, command)]⟩

theorem contains_iff {table : CommandTable α} {name : String} :
    table.contains name = true ↔ name ∈ table.names := by
  simp [contains, names]

/-- A name has a command exactly when it is taken. -/
theorem isSome_find? (table : CommandTable α) (name : String) :
    (table.find? name).isSome = table.contains name := by
  rw [Bool.eq_iff_iff]
  simp [find?, contains]

end CommandTable

/-- The commands that every shell knows. -/
def standardCommands : CommandTable Handler :=
  ⟨[("exit", Builtin.exit), ("type", Builtin.type), ("cd", Builtin.cd), ("pwd", Builtin.pwd),
    ("echo", Builtin.echo)]⟩

end LineShell
