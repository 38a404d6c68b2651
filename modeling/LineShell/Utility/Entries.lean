import LineShell.Utility.Plain

/-!
# Changing the file tree

Utilities that make and remove entries of the file tree, and copy, move and link them. Each operand
is seen to by itself: one that fails is reported, and the others go on.

An operand names an entry, be it a link, where the entry itself is meant; otherwise it is followed.
Files have no age and no owner on this machine, and of their permissions only whether they can be
run.
-/

namespace LineShell.Utility

/-! ## Operands -/

/-- Why something was not possible, as the user is told. -/
abbrev Refusal := String

/-- What is done with the file tree, as long as nothing refuses. -/
abbrev Changing := StateT FileTree (Except Refusal)

/-- See to operands, one after another: each changes the tree and prints something, or is reported
and leaves the tree as it is. -/
def changeEach (name : String) (change : Place → String → Changing String) (operands : List String) :
    Job Int := do
  let statuses ← operands.mapM fun operand ↦ do
    let system ← get
    match change (← read).cwd operand system.tree with
    | .ok (text, tree) =>
      set { system with tree }
      if text.isEmpty || (← put name (Octets.toBytes text)) then return (0 : Int) else return 1
    | .error refusal =>
      Job.complain (String.join ((refusal.splitOn "\n").map fun line ↦ name ++ ": " ++ line ++ "\n"))
      return 1
  return if statuses.all (· == 0) then 0 else 1

/-- Refuse with a reason. -/
def refuse {α : Type} (what : String) (error : FileError) : Changing α :=
  throw (what ++ ": " ++ error.reason)

/-- Go on with what was found, or refuse. -/
def orRefuse {α : Type} (what : String) (answer : Except FileError α) :
    Changing α :=
  match answer with
  | .ok value => pure value
  | .error error => refuse what error

/-- The path of an entry in a directory. -/
def within (directory name : String) : String :=
  if directory.toList.getLast? = some '/' then directory ++ name else directory ++ "/" ++ name

/-- What stands where a path leads. -/
def statAt (here : Place) (path : String) : Changing (Except FileError Node) :=
  return (← get).stat here (Octets.toText path)

/-- Whether a path leads to a directory. -/
def isDirectoryAt (here : Place) (path : String) : Changing Bool := do
  return (← statAt here path).toOption.any Node.isDirectory

/-- The place that a path names, and what stands there. -/
def entryAt (here : Place) (path : String) :
    Changing (Except FileError (Place × Node)) := do
  let tree ← get
  return do
    let place ← tree.locateEntry here (Octets.toText path)
    match tree.node? place with
    | some node => return (place, node)
    | none => throw .noEntry

/-- The place where an entry is to be made, whose directory must be there. -/
def newPlace (tree : FileTree) (here : Place) (path : String) : Except FileError Place := do
  let place ← tree.locateEntry here (Octets.toText path)
  if (tree.node? place.dropLast).any Node.isDirectory then return place else throw .noEntry

/-! ## Directories -/

/-- Make a directory. -/
def makeDirectory (here : Place) (path : String) : Changing Unit := do
  let what := "cannot create directory " ++ quote path
  if path = "" then refuse what .noEntry
  let tree ← get
  let place ← orRefuse what (newPlace tree here (withoutEnd path))
  if (tree.node? place).isSome then refuse what .alreadyThere
  set (tree.put place .directory)

/-- The paths on the way to a path, the shortest one first. -/
def waypoints (path : String) : List String :=
  let names := (withoutEnd path).splitOn "/"
  let paths := (List.range names.length).map fun count ↦ "/".intercalate (names.take (count + 1))
  paths.filter fun waypoint ↦ waypoint ≠ "" && waypoint.toList.getLast? ≠ some '/'

/-- Make the directories on the way to a path that are missing. -/
def makeDirectories (here : Place) (announces : Bool) (name path : String) : Changing String := do
  let last := withoutEnd path
  if path = "" then makeDirectory here path
  let made ← (waypoints path).mapM fun waypoint ↦ do
    match ← statAt here waypoint with
    | .ok (.directory _) => return ""
    | .ok _ =>
      refuse ("cannot create directory " ++ quote waypoint)
        (if waypoint = last then .alreadyThere else .notDirectory)
    | .error _ =>
      makeDirectory here waypoint
      return if announces then name ++ ": created directory " ++ quote waypoint ++ "\n" else ""
  return String.join made

/-- Make directories. -/
def mkdir : Utility :=
  withOptions [⟨'p', "parents", .none⟩, ⟨'m', "mode", .one⟩, ⟨'v', "verbose", .none⟩]
    fun name parsed ↦
      if parsed.operands.isEmpty then finish name (misuse name "missing operand")
      else changeEach name (fun here path ↦
        if parsed.has 'p' then makeDirectories here (parsed.has 'v') name path
        else do
          makeDirectory here path
          return if parsed.has 'v' then name ++ ": created directory " ++ quote path ++ "\n"
            else "") parsed.operands

/-- Remove an empty directory. -/
def removeDirectory (here : Place) (what path : String) : Changing Unit := do
  if (path.splitOn "/").getLast? = some "." then refuse what .invalid
  let (place, node) ← orRefuse what (← entryAt here path)
  if !node.isDirectory then refuse what .notDirectory
  let tree ← get
  if !(tree.childNames place).isEmpty then refuse what .notEmpty
  set (tree.remove place)

/-- Remove empty directories. -/
def rmdir : Utility :=
  withOptions [⟨'p', "parents", .none⟩, ⟨'v', "verbose", .none⟩,
      ⟨'i', "ignore-fail-on-non-empty", .none⟩]
    fun name parsed ↦
      if parsed.operands.isEmpty then finish name (misuse name "missing operand")
      else
        let isIgnored (refusal : Refusal) : Bool :=
          parsed.has 'i' && refusal.endsWith FileError.notEmpty.reason
        let removeOne (here : Place) (what path : String) : Changing String := fun tree ↦
          match removeDirectory here what path tree with
          | .ok ((), tree) =>
            .ok (if parsed.has 'v' then name ++ ": removing directory, " ++ quote path ++ "\n"
              else "", tree)
          | .error refusal => if isIgnored refusal then .ok ("", tree) else .error refusal
        changeEach name (fun here path ↦ do
          let first ← removeOne here ("failed to remove " ++ quote path) path
          if parsed.has 'p' then
            let others ← ((waypoints path).dropLast.reverse).mapM fun waypoint ↦
              removeOne here ("failed to remove directory " ++ quote waypoint) waypoint
            return String.join (first :: others)
          else return first) parsed.operands

/-! ## Removing -/

/-- The paths of what is below a directory, the deepest ones first. -/
def deepest (tree : FileTree) (place : Place) : List (Place × Node) :=
  let sorted := (tree.below place).mergeSort fun a b ↦ !b.1.lex a.1 fun x y ↦ decide (x < y)
  sorted.reverse

/-- What is said of something that was removed. -/
def removedLine (path : String) (node : Node) : String :=
  (if node.isDirectory then "removed directory " else "removed ") ++ quote path ++ "\n"

/-- Remove entries. -/
def rm : Utility :=
  withOptions [⟨'f', "force", .none⟩, ⟨'r', "recursive", .none⟩, ⟨'R', "", .none⟩,
      ⟨'d', "dir", .none⟩, ⟨'v', "verbose", .none⟩, ⟨'i', "", .none⟩, ⟨'I', "", .none⟩]
    fun name parsed ↦
      let goesDown := parsed.has 'r' || parsed.has 'R'
      if parsed.operands.isEmpty then
        if parsed.has 'f' then return 0 else finish name (misuse name "missing operand")
      else changeEach name (fun here path ↦ do
        let what := "cannot remove " ++ quote path
        if goesDown && lastName path ∈ [".", ".."] then
          throw ("refusing to remove '.' or '..' directory: skipping " ++ quote path)
        if goesDown && path ≠ "" && path.toList.all (· == '/') then
          throw ("it is dangerous to operate recursively on " ++ quote path
            ++ "\nuse --no-preserve-root to override this failsafe")
        let tree ← get
        match ← entryAt here path with
        | .error error =>
          if parsed.has 'f' && (error = .noEntry || error = .notDirectory) then return ""
          else refuse what error
        | .ok (place, node) =>
          let isFull := !(tree.childNames place).isEmpty
          if node.isDirectory && !goesDown then
            if !parsed.has 'd' then refuse what .isDirectory
            if isFull then refuse what .notEmpty
          set (tree.remove place)
          let lines := (deepest tree place).map fun (relative, node) ↦
            removedLine (within path (Octets.ofText ("/".intercalate relative))) node
          return if parsed.has 'v' then String.join (lines ++ [removedLine path node]) else "")
        parsed.operands

/-! ## Copying and moving -/

/-- Where operands go: to a path, or into a directory. -/
inductive Destination where
  | to (path : String)
  | into (directory : String)
  deriving DecidableEq, Repr

/-- Where one of the operands goes. -/
def Destination.of (destination : Destination) (operand : String) : String :=
  match destination with
  | .to path => path
  | .into directory => within directory (lastName operand)

/-- Do something with operands and their destination: the last operand, unless an option gives the
directory. -/
def withDestination (name : String) (parsed : Parsed) (allowsOne : Bool)
    (body : Destination → List String → Job Int) : Job Int := do
  let isDirectory (path : String) : Job Bool :=
    return (← Job.stat? path).any Node.isDirectory
  let demand (path : String) (operands : List String) : Job Int := do
    match ← Job.stat path with
    | .ok (.directory _) => body (.into path) operands
    | .ok _ => finish name (failure name ("target " ++ quote path ++ ": Not a directory"))
    | .error error =>
      finish name (failure name ("target " ++ quote path ++ ": " ++ error.reason))
  match parsed.value? 't', parsed.operands.reverse with
  | some path, _ :: _ => demand path parsed.operands
  | _, [] => finish name (misuse name "missing file operand")
  | none, [only] =>
    if allowsOne then body (.into ".") [only]
    else finish name (misuse name ("missing destination file operand after " ++ quote only))
  | none, [last, first] =>
    let isInto ← if parsed.has 'T' then pure false else isDirectory last
    body (if isInto then .into last else .to last) [first]
  | none, last :: others =>
    if parsed.has 'T' then
      finish name (misuse name ("extra operand " ++ quote (parsed.operands[2]?.getD "")))
    else demand last others.reverse

/-- Put a node with all that is below it somewhere. -/
def graft (tree : FileTree) (target : Place) (node : Node) (below : List (Place × Node)) :
    FileTree :=
  below.foldl (fun tree (relative, node) ↦
    let place := target ++ relative
    if node.isDirectory && (tree.node? place).any Node.isDirectory then tree
    else tree.put place node)
    (if node.isDirectory && (tree.node? target).any Node.isDirectory then tree
      else tree.put target node)

/-- Copy what a path leads to. -/
def copyEntry (here : Place) (parsed : Parsed) (source target : String) : Changing String := do
  let goesDown := parsed.has 'r' || parsed.has 'R' || parsed.has 'a'
  let keepsLinks := parsed.has 'P' || parsed.has 'd' || goesDown && !parsed.has 'L'
  let tree ← get
  let cannotStat := "cannot stat " ++ quote source
  let followed : Except FileError (Place × Node) := do
    let place ← tree.locate here (Octets.toText source)
    match tree.node? place with
    | some node => return (place, node)
    | none => throw .noEntry
  let found ← if keepsLinks then entryAt here source else pure followed
  let (place, node) ← orRefuse cannotStat found
  if node.isDirectory && !goesDown then
    throw ("-r not specified; omitting directory " ++ quote source)
  let shown := if parsed.has 'v' then quote source ++ " -> " ++ quote target ++ "\n" else ""
  let cannotCreate := if node.isDirectory then "cannot create directory " ++ quote target
    else "cannot create regular file " ++ quote target
  let isDangling := target.toList.getLast? = some '/'
  match tree.stat here (Octets.toText target) with
  | .ok old =>
    let goal ← orRefuse cannotCreate (tree.locate here (Octets.toText target))
    if goal = place then throw (quote source ++ " and " ++ quote target ++ " are the same file")
    match node.isDirectory, old.isDirectory with
    | false, true =>
      throw ("cannot overwrite directory " ++ quote target ++ " with non-directory")
    | true, false =>
      throw ("cannot overwrite non-directory " ++ quote target ++ " with directory "
        ++ quote source)
    | true, true =>
      if place.isPrefixOf goal then
        throw ("cannot copy a directory, " ++ quote source ++ ", into itself, " ++ quote target)
      set (graft tree goal node (tree.below place))
    | false, false =>
      if parsed.has 'n' then return ""
      match old, node with
      | .file _ executable, .file content _ => set (tree.put goal (.file content executable))
      | .device .full, _ => refuse ("error writing " ++ quote target) .noSpace
      | .device _, _ => return shown
      | _, node => set (tree.put goal node)
    return shown
  | .error .noEntry =>
    if isDangling && !node.isDirectory then refuse cannotCreate .notDirectory
    let goal ← orRefuse cannotCreate (newPlace tree here (withoutEnd target))
    if place.isPrefixOf goal && node.isDirectory then
      throw ("cannot copy a directory, " ++ quote source ++ ", into itself, " ++ quote target)
    set (graft tree goal node (tree.below place))
    return shown
  | .error .notDirectory => refuse ("failed to access " ++ quote target) .notDirectory
  | .error error => refuse cannotCreate error

/-- Copy files. -/
def cp : Utility :=
  withOptions [⟨'r', "recursive", .none⟩, ⟨'R', "", .none⟩, ⟨'a', "archive", .none⟩,
      ⟨'f', "force", .none⟩, ⟨'n', "no-clobber", .none⟩, ⟨'v', "verbose", .none⟩,
      ⟨'p', "", .none⟩, ⟨'P', "no-dereference", .none⟩, ⟨'L', "dereference", .none⟩,
      ⟨'d', "", .none⟩, ⟨'i', "interactive", .none⟩, ⟨'u', "update", .none⟩,
      ⟨'t', "target-directory", .one⟩, ⟨'T', "no-target-directory", .none⟩]
    fun name parsed ↦ withDestination name parsed false fun destination operands ↦
      changeEach name (fun here operand ↦ copyEntry here parsed operand (destination.of operand))
        operands

/-- Move an entry. -/
def moveEntry (here : Place) (parsed : Parsed) (source target : String) : Changing String := do
  let (place, node) ← orRefuse ("cannot stat " ++ quote source) (← entryAt here source)
  let tree ← get
  let cannotMove := "cannot move " ++ quote source ++ " to " ++ quote target
  let goal ← orRefuse cannotMove (newPlace tree here (withoutEnd target))
  let shown := if parsed.has 'v' then "renamed " ++ quote source ++ " -> " ++ quote target ++ "\n"
    else ""
  let move : Changing String := do
    set (graft (tree.remove place) goal node (tree.below place))
    return shown
  if goal = place && !node.isDirectory then
    throw (quote source ++ " and " ++ quote target ++ " are the same file")
  if place.isPrefixOf goal then
    throw ("cannot move " ++ quote source ++ " to a subdirectory of itself, " ++ quote target)
  match tree.node? goal with
  | none =>
    if target.toList.getLast? = some '/' && !node.isDirectory then refuse cannotMove .notDirectory
    move
  | some old =>
    if parsed.has 'n' then return ""
    match node.isDirectory, old.isDirectory with
    | true, false =>
      throw ("cannot overwrite non-directory " ++ quote target ++ " with directory "
        ++ quote source)
    | false, true =>
      throw ("cannot overwrite directory " ++ quote target ++ " with non-directory")
    | true, true =>
      if !(tree.childNames goal).isEmpty then
        refuse ("cannot overwrite " ++ quote target) .notEmpty
      move
    | false, false => move

/-- Move entries. -/
def mv : Utility :=
  withOptions [⟨'f', "force", .none⟩, ⟨'n', "no-clobber", .none⟩, ⟨'v', "verbose", .none⟩,
      ⟨'i', "interactive", .none⟩, ⟨'u', "update", .none⟩, ⟨'t', "target-directory", .one⟩,
      ⟨'T', "no-target-directory", .none⟩]
    fun name parsed ↦ withDestination name parsed false fun destination operands ↦
      changeEach name (fun here operand ↦ moveEntry here parsed operand (destination.of operand))
        operands

/-! ## Links -/

/-- Link an entry to what an operand names. -/
def linkEntry (here : Place) (parsed : Parsed) (operand path : String) : Changing String := do
  let isSymbolic := parsed.has 's'
  let tree ← get
  let source? := (tree.locate here (Octets.toText operand)).toOption.bind tree.node?
  let node ← if isSymbolic then pure (Node.link (Octets.toText operand))
    else match source? with
      | some (.directory _) => throw (operand ++ ": hard link not allowed for directory")
      | some node => pure node
      | none => refuse ("failed to access " ++ quote operand) .noEntry
  let what := "failed to create " ++ (if isSymbolic then "symbolic link " else "hard link ")
    ++ quote path
  let place ← orRefuse what (newPlace tree here (withoutEnd path))
  match tree.node? place with
  | some (.directory _) => refuse what .alreadyThere
  | some _ => if !parsed.has 'f' then refuse what .alreadyThere
  | none => pure ()
  set (tree.put place node)
  let arrow := if isSymbolic then " -> " else " => "
  return if parsed.has 'v' then quote path ++ arrow ++ quote operand ++ "\n" else ""

/-- Make links. -/
def ln : Utility :=
  withOptions [⟨'s', "symbolic", .none⟩, ⟨'f', "force", .none⟩, ⟨'n', "no-dereference", .none⟩,
      ⟨'v', "verbose", .none⟩, ⟨'t', "target-directory", .one⟩,
      ⟨'T', "no-target-directory", .none⟩]
    fun name parsed ↦ do
      let last := parsed.operands.getLast?.getD ""
      let isLink := match ← Job.linkStat last with
        | .ok (.link _) => true
        | _ => false
      let parsed := if parsed.has 'n' && isLink && parsed.operands.length = 2
        then parsed.give 'T' "" else parsed
      withDestination name parsed true fun destination operands ↦
        changeEach name (fun here operand ↦ linkEntry here parsed operand (destination.of operand))
          operands

/-! ## Files -/

/-- Make files that are missing. -/
def touch : Utility :=
  withOptions [⟨'c', "no-create", .none⟩, ⟨'a', "", .none⟩, ⟨'m', "", .none⟩, ⟨'f', "", .none⟩,
      ⟨'h', "no-dereference", .none⟩, ⟨'d', "date", .one⟩, ⟨'r', "reference", .one⟩,
      ⟨'t', "", .one⟩]
    fun name parsed ↦
      if parsed.operands.isEmpty then finish name (misuse name "missing file operand")
      else changeEach name (fun here path ↦ do
        let tree ← get
        let what := if path.toList.getLast? = some '/' then "setting times of " ++ quote path
          else "cannot touch " ++ quote path
        match tree.stat here (Octets.toText path) with
        | .ok _ => return ""
        | .error .noEntry =>
          if parsed.has 'c' then return ""
          if path = "" || path.toList.getLast? = some '/' then refuse what .noEntry
          let tree ← orRefuse what (tree.write here .append (Octets.toText path) [])
          set tree
          return ""
        | .error error => refuse what error) parsed.operands

/-- Whether a file can be run after a clause of letters has changed that. -/
def changeMode? (mode : List Char) (executable : Bool) : Option Bool :=
  let who := mode.takeWhile fun c ↦ c ∈ ['u', 'g', 'o', 'a']
  match mode.drop who.length with
  | sign :: letters =>
    let isPlain := letters.all fun c ↦ c ∈ ['r', 'w', 'x', 'X', 's', 't']
    let isForAll := who.isEmpty || who.contains 'a' || ['u', 'g', 'o'].all (who.contains ·)
    let runs := letters.contains 'x' || letters.contains 'X' && executable
    if !isPlain then none
    else match sign with
      | '+' => some (executable || runs)
      | '-' => some (executable && !(runs && isForAll))
      | '=' => some (runs || executable && !isForAll)
      | _ => none
  | [] => none

/-- Whether a file can be run after a mode has changed that. -/
def applyMode? (mode : String) (executable : Bool) : Option Bool :=
  let cs := mode.toList
  if cs.head?.any Char.isDigit then
    if cs.all (fun c ↦ '0' ≤ c && c ≤ '7') && (cs.dropWhile (· == '0')).length ≤ 4 then
      some ((cs.reverse.take 3).any fun c ↦ c.toNat % 2 = 1)
    else none
  else (mode.splitOn ",").foldlM (fun executable clause ↦ changeMode? clause.toList executable)
    executable

/-- Change which files can be run. -/
def chmod : Utility := fun name args ↦
  let isMode (text : String) : Bool :=
    text.toList.head? = some '-' && (changeMode? text.toList true).isSome
  let args := match args.findIdx? isMode with
    | some index => if (args.take index).contains "--" then args
      else args.take index ++ "--" :: args.drop index
    | none => args
  withOptions [⟨'R', "recursive", .none⟩, ⟨'v', "verbose", .none⟩, ⟨'c', "changes", .none⟩,
      ⟨'f', "silent", .none⟩]
    (fun name parsed ↦
      match parsed.operands with
      | [] => finish name (misuse name "missing operand")
      | [mode] => finish name (misuse name ("missing operand after " ++ quote mode))
      | mode :: paths =>
        if (applyMode? mode true).isNone then
          finish name (misuse name ("invalid mode: " ++ quote mode))
        else changeEach name (fun here path ↦ do
          let tree ← get
          let place ← orRefuse ("cannot access " ++ quote path)
            (tree.locate here (Octets.toText path))
          if (tree.node? place).isNone then refuse ("cannot access " ++ quote path) .noEntry
          let places := if parsed.has 'R'
            then place :: (tree.below place).map fun (relative, _) ↦ place ++ relative
            else [place]
          set (places.foldl (fun (tree : FileTree) place ↦
            match tree.node? place with
            | some (.file content executable) =>
              tree.put place (.file content ((applyMode? mode executable).getD executable))
            | _ => tree) tree)
          return "") paths)
    true 1 name args

end LineShell.Utility
