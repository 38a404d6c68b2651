import LineShell.FileTree.Basic
import LineShell.Output
import LineShell.Path

/-!
# Walking through a file tree

A path leads from a directory through a file tree to a place. On the way `.` stays, `..` goes up,
and a symbolic link is followed: its target takes the stead of its name. Each of these steps asks
that the directory may be searched. A walk reaches the place that it ends at even if nothing stands
there yet, provided that the directory does, since a file may be created there.

Links can lead in circles, so a walk follows only so many of them. It therefore is a recursion in
two stages: `descend` goes on over names up to the first link, and `walk` goes on from a link as
long as its allowance lasts. Both are structural.
-/

namespace LineShell

/-- Why a file cannot be reached, read or written. -/
inductive FileError where
  | noEntry
  | notDirectory
  | isDirectory
  | nameTooLong
  | tooManyLinks
  | noSpace
  | permissionDenied
  | notExecutable
  | alreadyThere
  | notEmpty
  | badDescriptor
  | invalid
  deriving DecidableEq, Repr

/-- The number that the system gives to an error. -/
def FileError.number : FileError → Nat
  | .noEntry => 2
  | .notExecutable => 8
  | .badDescriptor => 9
  | .permissionDenied => 13
  | .alreadyThere => 17
  | .notDirectory => 20
  | .isDirectory => 21
  | .invalid => 22
  | .noSpace => 28
  | .nameTooLong => 36
  | .notEmpty => 39
  | .tooManyLinks => 40

/-- What the user is told. -/
def FileError.reason : FileError → String
  | .noEntry => "No such file or directory"
  | .notDirectory => "Not a directory"
  | .isDirectory => "Is a directory"
  | .nameTooLong => "File name too long"
  | .tooManyLinks => "Too many levels of symbolic links"
  | .noSpace => "No space left on device"
  | .permissionDenied => "Permission denied"
  | .notExecutable => "Exec format error"
  | .alreadyThere => "File exists"
  | .notEmpty => "Directory not empty"
  | .badDescriptor => "Bad file descriptor"
  | .invalid => "Invalid argument"

namespace FileTree

/-! ## Limits -/

/-- How many links one walk follows. -/
def maxLinks : Nat := 40

/-- The greatest length of a name, in bytes. -/
def maxNameBytes : Nat := 255

/-- The greatest length of a path, in bytes. -/
def maxPathBytes : Nat := 4095

/-! ## Steps -/

/-- The steps of a path: its names, and an empty one at the end if it ends in a slash, which demands
a directory there. -/
def steps (path : String) : List String :=
  let pieces := Path.split '/' path.toList
  let named := pieces.filter fun piece ↦ !piece.isEmpty
  let final := if pieces.getLast? == some [] then [[]] else []
  (named ++ final).map String.ofList

/-- Where a descent stops: at its end, or at a link that lies in a directory with steps to go. -/
inductive Stop where
  | arrived (place : Place)
  | linked (directory : Place) (target : String) (rest : List String)
  deriving DecidableEq, Repr

/-- What a walk is for: to find what is there, or to create a file if nothing is. A walk that may
create a file never ends at a name with a slash after it. -/
inductive Purpose where
  | find
  | create
  deriving DecidableEq, Repr

/-- Go over steps from a place up to the first link. -/
def descend (tree : FileTree) (purpose : Purpose) (place : Place) :
    List String → Except FileError Stop
  | [] => .ok (.arrived place)
  | step :: rest =>
    match tree.node? place with
    | none => .error .noEntry
    | some (.directory permissions) =>
      if step = "" then descend tree purpose place rest
      else if !permissions.search then .error .permissionDenied
      else if step = "." then descend tree purpose place rest
      else if step = ".." then descend tree purpose place.dropLast rest
      else if purpose = .create ∧ rest = [""] then .error .isDirectory
      else if maxNameBytes < step.utf8ByteSize then .error .nameTooLong
      else
        let next := place ++ [step]
        match tree.node? next with
        | some (.link target) => .ok (.linked place target rest)
        | some _ => descend tree purpose next rest
        | none => if rest.isEmpty then .ok (.arrived next) else .error .noEntry
    | some _ => .error .notDirectory

/-- Where a path starts: at the root if it is absolute. -/
def origin (here : Place) (path : String) : Place :=
  if Path.isAbsolute path then [] else here

/-- Go over steps from a place, following links as long as the allowance lasts. -/
def walk (tree : FileTree) (purpose : Purpose) : Nat → Place → List String → Except FileError Place
  | allowance, place, todo =>
    match tree.descend purpose place todo with
    | .error e => .error e
    | .ok (.arrived reached) => .ok reached
    | .ok (.linked directory target rest) =>
      match allowance with
      | 0 => .error .tooManyLinks
      | allowance + 1 =>
        walk tree purpose allowance (origin directory target) (steps target ++ rest)

/-- The place that a path leads to from a directory. -/
def locate (tree : FileTree) (here : Place) (path : String) (purpose : Purpose := .find) :
    Except FileError Place :=
  if path.isEmpty then .error .noEntry
  else if maxPathBytes < path.utf8ByteSize then .error .nameTooLong
  else tree.walk purpose maxLinks (origin here path) (steps path)

/-! ## Reading -/

/-- What stands where a path leads. -/
def stat (tree : FileTree) (here : Place) (path : String) : Except FileError Node := do
  let place ← tree.locate here path
  match tree.node? place with
  | some node => return node
  | none => throw .noEntry

/-- What stands where a path leads, if anything does. -/
def stat? (tree : FileTree) (here : Place) (path : String) : Option Node :=
  (tree.stat here path).toOption

/-- The place that a path names. A link at its end is not followed unless a slash comes after it. -/
def locateEntry (tree : FileTree) (here : Place) (path : String) : Except FileError Place := do
  match (steps path).getLast? with
  | none | some "" | some "." | some ".." => tree.locate here path
  | some name =>
    if maxPathBytes < path.utf8ByteSize ∨ maxNameBytes < name.utf8ByteSize then throw .nameTooLong
    let parents := (steps path).dropLast ++ ["."]
    let directory ← tree.walk .find maxLinks (origin here path) parents
    return directory ++ [name]

/-- The names in the directory that a path leads to. -/
def list (tree : FileTree) (here : Place) (path : String) : Except FileError (List String) := do
  let place ← tree.locate here path
  match tree.node? place with
  | some (.directory permissions) =>
    if permissions.list then return tree.childNames place else throw .permissionDenied
  | some _ => throw .notDirectory
  | none => throw .noEntry

/-- The place of the directory that a path leads to, if a process may work there. -/
def workingPlace (tree : FileTree) (here : Place) (path : String) : Except FileError Place := do
  let place ← tree.locate here path
  match tree.node? place with
  | some (.directory permissions) =>
    if permissions.search then return place else throw .permissionDenied
  | some _ => throw .notDirectory
  | none => throw .noEntry

/-! ## Writing -/

/-- The contents of a file after a write. -/
def written : WriteMode → Bytes → Bytes → Bytes
  | .truncate, _, new => new
  | .append, old, new => old ++ new

/-- Write to the file that a path leads to. A file that is missing is created; a device takes the
bytes or refuses them and stays what it is. -/
def write (tree : FileTree) (here : Place) (mode : WriteMode) (path : String) (data : Bytes) :
    Except FileError FileTree := do
  let place ← tree.locate here path .create
  match tree.node? place with
  | none => return tree.put place (.file data false)
  | some (.file old executable) => return tree.put place (.file (written mode old data) executable)
  | some (.program _) => return tree.put place (.file data true)
  | some (.directory _) => throw .isDirectory
  | some (.device .null) => return tree
  | some (.device .full) => if data.isEmpty then return tree else throw .noSpace
  | some (.link _) => throw .tooManyLinks

end FileTree

end LineShell
