/-!
# Lists of names in order

A set of names is kept as the list of its members in increasing order of code points, each once.
The list is built by inserting one name after another, so it does not depend on the order in which
the names came or on how often each came.
-/

namespace LineShell.Names

/-- Put a name at its place among names in order, unless it is there. -/
def insert (name : String) : List String → List String
  | [] => [name]
  | first :: rest =>
    if name < first then name :: first :: rest
    else if name = first then first :: rest
    else first :: insert name rest

/-- The names of a list in order, each once. -/
def ofList (names : List String) : List String :=
  names.foldr insert []

@[simp] theorem mem_insert {name other : String} {names : List String} :
    other ∈ insert name names ↔ other = name ∨ other ∈ names := by
  induction names with
  | nil => simp [insert]
  | cons first rest ih =>
    rw [insert]
    split
    · simp
    · split
      · simp_all
      · simp only [List.mem_cons, ih]
        constructor <;> rintro (h | h | h) <;> simp [h]

@[simp] theorem mem_ofList {name : String} {names : List String} :
    name ∈ ofList names ↔ name ∈ names := by
  induction names with
  | nil => simp [ofList]
  | cons first rest ih =>
    change name ∈ insert first (ofList rest) ↔ _
    rw [mem_insert, ih, List.mem_cons]

end LineShell.Names
