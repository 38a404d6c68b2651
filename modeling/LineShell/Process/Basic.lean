import LineShell.Process.Channel

/-!
# Processes

What a program sees of the machine: its working directory, its environment, and its descriptors,
which lead to channels. A job is what a program does, given its process; it changes the state that
processes share and comes to a value. Texts of a job are octet texts, and paths are decoded where
they meet the file tree.

The status of a program that a signal has ended is the negative number of the signal.
-/

namespace LineShell

/-- What a program has of its own. -/
structure Process where
  cwd : Place := []
  /-- The variables that it was given. -/
  environment : List (String × String) := []
  /-- The channels that its descriptors lead to. -/
  descriptors : List (Nat × Nat) := []
  /-- Its number. -/
  number : Nat := 4242

namespace Process

/-- The channel of a descriptor. -/
def channel? (process : Process) (descriptor : Nat) : Option Nat :=
  (process.descriptors.find? fun entry ↦ entry.1 = descriptor).map Prod.snd

/-- Close a descriptor. -/
def close (process : Process) (descriptor : Nat) : Process :=
  { process with descriptors := process.descriptors.filter fun entry ↦ entry.1 ≠ descriptor }

/-- Let a descriptor lead to a channel. -/
def lead (process : Process) (descriptor channel : Nat) : Process :=
  { process with descriptors := (descriptor, channel) :: (process.close descriptor).descriptors }

/-- The descriptor that a path stands for. -/
def descriptorAt? (path : String) : Option Nat :=
  match path.splitOn "/dev/fd/", path with
  | ["", digits], _ => digits.toNat?
  | _, "/dev/stdin" => some 0
  | _, "/dev/stdout" => some 1
  | _, "/dev/stderr" => some 2
  | _, _ => none

/-- Open the file that a path leads to. The path of a descriptor leads to what is open there. -/
def openPath (process : Process) (system : System) (access : System.Access) (path : String) :
    Except FileError (Nat × System) :=
  match descriptorAt? path with
  | none => system.openPath process.cwd access (Octets.toText path)
  | some descriptor =>
    match process.channel? descriptor with
    | none => .error .noEntry
    | some channel =>
      match system.channels[channel]? with
      | some (.file place _ _ _ _) => system.openPlace access place
      | _ => .ok (channel, system)

/-- The value of a variable of the environment. -/
def lookUp? (process : Process) (name : String) : Option String :=
  (process.environment.find? fun entry ↦ entry.1 = name).map Prod.snd

end Process

/-- What a program does, given its process. -/
abbrev Job := ReaderT Process (StateM System)

/-- What starts the program at a path with a name and arguments. -/
abbrev Execute := String → List String → Job (Except FileError Int)

namespace Job

/-! ## Streams -/

/-- Write bytes to a descriptor. -/
def write (descriptor : Nat) (bytes : Bytes) : Job (Except FileError Unit) := do
  match (← read).channel? descriptor with
  | none => return .error .badDescriptor
  | some channel =>
    match (← get).writeTo channel bytes with
    | .ok system =>
      set system
      return .ok ()
    | .error error => return .error error

/-- What a descriptor has to be read. -/
def unread (descriptor : Nat) : Job (Except FileError Bytes) := do
  match (← read).channel? descriptor with
  | none => return .error .badDescriptor
  | some channel => return (← get).unread channel

/-- Take bytes away from what a descriptor has to be read. -/
def skip (descriptor count : Nat) : Job Unit := do
  match (← read).channel? descriptor with
  | none => return ()
  | some channel => modify fun system ↦ system.skip channel count

/-- Read everything from a descriptor. -/
def readAll (descriptor : Nat) : Job (Except FileError Bytes) := do
  let answer ← unread descriptor
  if let .ok bytes := answer then skip descriptor bytes.length
  return answer

/-- Write a text to the standard error. What cannot be written is lost. -/
def complain (text : String) : Job Unit :=
  discard (write 2 (Octets.toBytes text))

/-! ## Files -/

/-- What stands where a path leads. -/
def stat (path : String) : Job (Except FileError Node) :=
  return (← get).tree.stat (← read).cwd (Octets.toText path)

/-- What stands where a path leads, if anything does. -/
def stat? (path : String) : Job (Option Node) :=
  return (← stat path).toOption

/-- What a path names, be it a link. -/
def linkStat (path : String) : Job (Except FileError Node) := do
  let tree := (← get).tree
  match tree.locateEntry (← read).cwd (Octets.toText path) with
  | .error error => return .error error
  | .ok place =>
    match tree.node? place with
    | some node => return .ok node
    | none => return .error .noEntry

/-- The names in a directory, in order. -/
def list (path : String) : Job (Except FileError (List String)) := do
  let names := (← get).tree.list (← read).cwd (Octets.toText path)
  return names.map fun names ↦
    (names.map Octets.ofText).mergeSort fun a b ↦ decide (a ≤ b)

/-- The contents of a file, from where it is read if it is open. -/
def readFile (path : String) : Job (Except FileError Bytes) := do
  if let some descriptor := Process.descriptorAt? path then return ← readAll descriptor
  match ← stat path with
  | .ok (.file content _) => return .ok content
  | .ok (.directory _) => return .error .isDirectory
  | .ok _ => return .ok []
  | .error error => return .error error

/-- Change the tree, unless that fails. -/
def changeTree (change : FileTree → Place → Except FileError FileTree) :
    Job (Except FileError Unit) := do
  let system ← get
  match change system.tree (← read).cwd with
  | .ok tree =>
    set { system with tree }
    return .ok ()
  | .error error => return .error error

end Job

end LineShell
