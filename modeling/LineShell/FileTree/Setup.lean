import LineShell.FileTree.Walk

/-!
# Setting up file trees

Making and removing entries of a file tree by their paths. Directories on the way to a new entry are
made where they are missing. A file goes where its path leads, through links; a link is made, and
anything is removed, at the very place that the path names.
-/

namespace LineShell

/-- A change of a file tree. -/
inductive Change where
  | directory (path : String)
  | file (path : String) (content : Bytes) (executable : Bool)
  | link (path target : String)
  /-- Remove an entry, and everything below it. -/
  | remove (path : String)
  deriving DecidableEq, Repr

namespace FileTree

/-- Make a directory where a path leads, unless something is there. -/
def makeDirectory (tree : FileTree) (here : Place) (path : String) : FileTree :=
  match tree.locate here path with
  | .ok place => if (tree.node? place).isSome then tree else tree.put place .directory
  | .error _ => tree

/-- The paths of the directories on the way along names. -/
def waypoints (names : List String) : List String :=
  (List.range names.length).map fun count ↦ "/".intercalate (names.take (count + 1))

/-- Make the directories along names, seen from a place. -/
def makeDirectories (tree : FileTree) (here : Place) (names : List String) : FileTree :=
  (waypoints names).foldl (fun tree path ↦ tree.makeDirectory here path) tree

/-- The place that a path names, without following a link at its end. -/
def entryPlace? (tree : FileTree) (here : Place) (names : List String) : Option Place := do
  let name ← names.getLast?
  match names.dropLast with
  | [] => return here ++ [name]
  | parents =>
    let place ← (tree.locate here ("/".intercalate parents)).toOption
    return place ++ [name]

/-- Make a change, with its path seen from a place. A change that is not possible is not made. -/
def change (tree : FileTree) (here : Place) (change : Change) : FileTree :=
  let namesOf (path : String) : List String := (Path.names path.toList).map String.ofList
  match change with
  | .directory path => tree.makeDirectories (origin here path) (namesOf path)
  | .file path content executable =>
    let here := origin here path
    let names := namesOf path
    let tree := tree.makeDirectories here names.dropLast
    match tree.locate here ("/".intercalate names) .create with
    | .ok place => tree.put place (.file content executable)
    | .error _ => tree
  | .link path target =>
    let here := origin here path
    let names := namesOf path
    let tree := tree.makeDirectories here names.dropLast
    match tree.entryPlace? here names with
    | some place => tree.put place (.link target)
    | none => tree
  | .remove path =>
    match tree.entryPlace? (origin here path) (namesOf path) with
    | some place => tree.remove place
    | none => tree

end FileTree

end LineShell
