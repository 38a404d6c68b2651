import LineShell.FileTree.Walk
import LineShell.Text.Octets

/-!
# Channels

What the descriptors of processes lead to. A channel belongs to the machine and not to a process:
processes that share it also share how far it has been read and where the next byte is written. So
the machine holds its channels in one list, next to the file tree, and a process holds numbers of
channels.

A pipe has no limit. What one process writes is kept until another one reads it, which is enough
where the processes of a pipeline run one after another.
-/

namespace LineShell

/-- What a descriptor leads to. -/
inductive Channel where
  /-- An open file. -/
  | file (place : Place) (offset : Nat) (appends readable writable : Bool)
  | device (device : Device)
  /-- An open directory, which can neither be read nor written. -/
  | directory
  /-- Bytes that wait to be read, and the pieces that were written after them, the last one
  first. -/
  | pipe (waiting : Bytes) (pieces : List Bytes)
  deriving DecidableEq, Repr

/-- Everything that is there to be read. -/
def Channel.pipeContents (waiting : Bytes) (pieces : List Bytes) : Bytes :=
  if pieces.isEmpty then waiting else waiting ++ pieces.reverse.flatten

/-- The state that the processes of a machine share. -/
structure System where
  tree : FileTree := {}
  channels : Array Channel := #[]

namespace System

/-- Add a channel; the answer is its number. -/
def addChannel (system : System) (channel : Channel) : Nat × System :=
  (system.channels.size, { system with channels := system.channels.push channel })

/-- Replace a channel. -/
def setChannel (system : System) (number : Nat) (channel : Channel) : System :=
  { system with channels := system.channels.setIfInBounds number channel }

/-- Forget all channels from a number on. -/
def dropChannels (system : System) (number : Nat) : System :=
  { system with channels := system.channels.take number }

/-- Everything that was written to a pipe and not read. -/
def contents (system : System) (number : Nat) : Bytes :=
  match system.channels[number]? with
  | some (.pipe waiting pieces) => Channel.pipeContents waiting pieces
  | _ => []

/-! ## Writing -/

/-- The contents of a file after bytes are written at an offset. A gap is filled with zeros. -/
def overwrite (content : Bytes) (offset : Nat) (bytes : Bytes) : Bytes :=
  let head := content.take offset
  head ++ List.replicate (offset - head.length) 0 ++ bytes
    ++ content.drop (offset + bytes.length)

/-- Write bytes to a channel. -/
def writeTo (system : System) (number : Nat) (bytes : Bytes) : Except FileError System :=
  match system.channels[number]? with
  | some (.pipe waiting pieces) => .ok (system.setChannel number (.pipe waiting (bytes :: pieces)))
  | some (.device .full) => if bytes.isEmpty then .ok system else .error .noSpace
  | some (.device _) => .ok system
  | some (.file place offset appends readable true) =>
    match system.tree.node? place with
    | some (.file content executable) =>
      let start := if appends then content.length else offset
      let tree := system.tree.put place (.file (overwrite content start bytes) executable)
      .ok (setChannel { system with tree } number
        (.file place (start + bytes.length) appends readable true))
    | _ => .ok system
  | _ => .error .badDescriptor

/-! ## Reading -/

/-- What a channel has to be read. -/
def unread (system : System) (number : Nat) : Except FileError Bytes :=
  match system.channels[number]? with
  | some (.pipe waiting pieces) => .ok (Channel.pipeContents waiting pieces)
  | some (.device _) => .ok []
  | some .directory => .error .isDirectory
  | some (.file place offset _ true _) =>
    match system.tree.node? place with
    | some (.file content _) => .ok (content.drop offset)
    | _ => .ok []
  | _ => .error .badDescriptor

/-- Take bytes away from what a channel has to be read. -/
def skip (system : System) (number count : Nat) : System :=
  match system.channels[number]? with
  | some (.pipe waiting pieces) =>
    system.setChannel number (.pipe ((Channel.pipeContents waiting pieces).drop count) [])
  | some (.file place offset appends true writable) =>
    system.setChannel number (.file place (offset + count) appends true writable)
  | _ => system

/-! ## Opening -/

/-- What a file is opened for. -/
inductive Access where
  | read
  /-- The file is emptied or made. -/
  | create
  /-- The file is made if it is missing, and every byte goes to its end. -/
  | append
  /-- The file is made if it is missing, and read and written from its start. -/
  | update
  deriving DecidableEq, Repr

/-- Open the file that stands at a place, or make it. -/
def openPlace (system : System) (access : Access) (place : Place) :
    Except FileError (Nat × System) :=
  let isRead := access = .read
  let channel : Channel :=
    .file place 0 (access = .append) (access = .read ∨ access = .update) (access ≠ .read)
  match system.tree.node? place with
  | some (.directory permissions) =>
    if !isRead then .error .isDirectory
    else if permissions.list then .ok (system.addChannel .directory)
    else .error .permissionDenied
  | some (.device device) => .ok (system.addChannel (.device device))
  | some (.link _) => .error .tooManyLinks
  | some (.program _) => .ok (system.addChannel (.pipe [] []))
  | some (.file _ executable) =>
    if access = .create then
      let tree := system.tree.put place (.file [] executable)
      .ok (addChannel { system with tree } channel)
    else .ok (system.addChannel channel)
  | none =>
    if isRead then .error .noEntry
    else .ok (addChannel { system with tree := system.tree.put place (.file [] false) } channel)

/-- Open the file that a path leads to from a directory. -/
def openPath (system : System) (here : Place) (access : Access) (path : String) :
    Except FileError (Nat × System) := do
  let purpose := if access = .read then FileTree.Purpose.find else .create
  let place ← system.tree.locate here path purpose
  system.openPlace access place

end System

end LineShell
