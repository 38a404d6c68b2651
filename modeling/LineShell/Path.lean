/-!
# Paths as text

Operations on paths that look at their text only and never at the files they name.

A path is read as its leading slashes and the names between its slashes. Leading slashes come in
three kinds: none (a relative path), exactly two, which are kept apart from one, and one, which
three or more mean too. Empty names and `.` say nothing and are dropped whenever a path is written
anew. What happens to `..` tells the two ways of rewriting apart: `normalize` removes it together
with the name before it, as if no name were a symbolic link, and `anchor` keeps it for the file
system to follow.

The work is done on lists of characters, and a path is a `String` at the surface.
-/

namespace LineShell.Path

/-! ## Names and slashes -/

/-- The pieces of a text between the occurrences of a separator. -/
def split (separator : Char) : List Char → List (List Char)
  | [] => [[]]
  | c :: rest =>
    if c = separator then [] :: split separator rest
    else match split separator rest with
      | [] => [[c]]
      | piece :: pieces => (c :: piece) :: pieces

theorem split_ne_nil (separator : Char) (cs : List Char) : split separator cs ≠ [] := by
  cases cs with
  | nil => simp [split]
  | cons c rest =>
    rw [split]
    split
    · simp
    · split <;> simp

/-- A name that says nothing about where a path leads: an empty one, or `.`. -/
def isIdle (name : List Char) : Bool :=
  name.isEmpty || name == ['.']

/-- The names in a path that say something. -/
def names (path : List Char) : List (List Char) :=
  (split '/' path).filter fun name ↦ !isIdle name

/-- How many slashes a path is written with in front: two are kept, more count as one. -/
def slashes : List Char → Nat
  | '/' :: '/' :: '/' :: _ => 1
  | '/' :: '/' :: _ => 2
  | '/' :: _ => 1
  | _ => 0

/-- The path with the given slashes in front and the given names. A path without either is the
directory that it is relative to. -/
def write (slashCount : Nat) (parts : List (List Char)) : List Char :=
  if slashCount = 0 ∧ parts = [] then ['.']
  else List.replicate slashCount '/' ++ List.intercalate ['/'] parts

/-- Whether a path is absolute. -/
def isAbsolute (path : String) : Bool :=
  path.toList.head? == some '/'

/-! ## Joining -/

/-- A path relative to another: an absolute second path stands alone. -/
def join (base path : String) : String :=
  if isAbsolute path then path
  else if base.isEmpty || base.toList.getLast? == some '/' then base ++ path
  else base ++ "/" ++ path

/-! ## Normal form -/

/-- Put one more name on a stack of names, the last name first. `..` takes the name before it
away; at the root there is none to take, and in a relative path it stays if none is left. -/
def pushName (rooted : Bool) (stack : List (List Char)) (name : List Char) : List (List Char) :=
  if name = ['.', '.'] then
    match stack with
    | [] => if rooted then [] else [name]
    | top :: below => if top = ['.', '.'] then name :: stack else below
  else name :: stack

/-- The names that are left when every `..` that can has taken the name before it away. -/
def reduce (rooted : Bool) (parts : List (List Char)) : List (List Char) :=
  (parts.foldl (pushName rooted) []).reverse

/-- The normal form of a path on characters. -/
def normalizeChars (path : List Char) : List Char :=
  let count := slashes path
  write count (reduce (count != 0) (names path))

/-- The normal form of a path: no idle names, no `..` after a name, no slash at the end. -/
def normalize (path : String) : String :=
  String.ofList (normalizeChars path.toList)

/-! ## Anchoring -/

/-- A path seen from a directory, with every `..` kept. Slashes at its end are dropped, so a file
can be named with one. -/
def anchor (directory path : String) : String :=
  let written :=
    if isAbsolute path then write (slashes path.toList) (names path.toList)
    else write (slashes directory.toList) (names directory.toList ++ names path.toList)
  String.ofList written

/-- Whether a text holds the character that no path may hold. -/
def hasNul (path : String) : Bool :=
  path.toList.contains '\x00'

end LineShell.Path
