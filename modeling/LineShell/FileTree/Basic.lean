import LineShell.Text.Utf8

/-!
# File trees

A file tree as plain data. A place in it is the list of names that leads there from the root, and
the tree is a list of places with what stands at each. There is no nesting: a directory is an entry
of its own, and what it contains are the entries whose place is one name longer. So looking up,
writing and removing are operations on a list of pairs, and two places never interfere.

The root is a directory in every tree, and open to everyone. Entries whose directory is missing can
be written down, but no walk through the tree reaches them (see `LineShell.FileTree.Walk`).
-/

namespace LineShell

/-- Where something stands in a file tree: the names from the root on. -/
abbrev Place := List String

/-- The path of a place. -/
def Place.path (place : Place) : String :=
  "/" ++ "/".intercalate place

/-- A device that takes output. -/
inductive Device where
  /-- Everything written to it vanishes. -/
  | null
  /-- Nothing can be written to it. -/
  | full
  deriving DecidableEq, Repr

/-- What the process may do with a directory. The two do not depend on each other: the names in a
directory that may only be searched cannot be learned, but each one that is known leads somewhere. -/
structure Permissions where
  /-- Learn the names in it. -/
  list : Bool := true
  /-- Go through it to what a name in it stands for, and work in it. -/
  search : Bool := true
  deriving DecidableEq, Repr

/-- What stands at a place. -/
inductive Node where
  | directory (permissions : Permissions := {})
  | file (content : Bytes) (executable : Bool)
  | link (target : String)
  | device (device : Device)
  /-- A program of the host that is not a script, by its name. -/
  | program (name : String)
  deriving DecidableEq, Repr

namespace Node

/-- Whether something is a regular file. -/
def isFile : Node → Bool
  | .file _ _ => true
  | .program _ => true
  | _ => false

/-- Whether something is a directory. -/
def isDirectory : Node → Bool
  | .directory _ => true
  | _ => false

/-- Whether something may be run as a program. -/
def isExecutable : Node → Bool
  | .file _ executable => executable
  | .program _ => true
  | _ => false

end Node

/-- A file tree: places and what stands there. -/
structure FileTree where
  entries : List (Place × Node) := []
  deriving DecidableEq, Repr

namespace FileTree

/-- What stands at a place. -/
def node? (tree : FileTree) : Place → Option Node
  | [] => some .directory
  | name :: rest => (tree.entries.find? fun entry ↦ entry.1 = name :: rest).map Prod.snd

/-- Put something at a place, in the stead of what stands there. -/
def put (tree : FileTree) (place : Place) (node : Node) : FileTree :=
  ⟨(place, node) :: tree.entries.filter fun entry ↦ entry.1 ≠ place⟩

/-- Take away what stands at a place and everything below it. -/
def remove (tree : FileTree) (place : Place) : FileTree :=
  ⟨tree.entries.filter fun entry ↦ !place.isPrefixOf entry.1⟩

/-- The names of the entries directly below a place. -/
def childNames (tree : FileTree) (place : Place) : List String :=
  tree.entries.filterMap fun entry ↦
    if entry.1.dropLast = place then entry.1.getLast? else none

/-- Everything below a place, by its place relative to there. -/
def below (tree : FileTree) (place : Place) : List (Place × Node) :=
  tree.entries.filterMap fun entry ↦
    match entry.1.drop place.length with
    | [] => none
    | name :: rest =>
      if place.isPrefixOf entry.1 then some (name :: rest, entry.2) else none

@[simp] theorem node?_nil (tree : FileTree) : tree.node? [] = some .directory := rfl

/-- Where something was put, it stands. -/
theorem node?_put_self {tree : FileTree} {place : Place} {node : Node} (h : place ≠ []) :
    (tree.put place node).node? place = some node := by
  cases place with
  | nil => exact absurd rfl h
  | cons name rest => simp [node?, put]

/-- What stands elsewhere is not touched by putting something at a place. -/
theorem node?_put_of_ne {tree : FileTree} {place other : Place} {node : Node} (h : other ≠ place) :
    (tree.put place node).node? other = tree.node? other := by
  cases other with
  | nil => rfl
  | cons name rest =>
    have hskip : ∀ entry : Place × Node,
        (decide (entry.1 ≠ place) && decide (entry.1 = name :: rest))
          = decide (entry.1 = name :: rest) := by
      intro entry
      by_cases hentry : entry.1 = name :: rest
      · simp [hentry, h]
      · simp [hentry]
    simp only [node?, put, List.find?_cons, decide_eq_false (Ne.symm h), List.find?_filter]
    congr 2
    funext entry
    simpa using hskip entry

end FileTree

end LineShell
