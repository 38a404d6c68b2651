import LineShell.Utility.Entries

/-!
# Showing the file tree

Utilities that list directories and that show where links and paths lead.
-/

namespace LineShell.Utility

/-! ## Directories -/

/-- How names are listed. -/
structure Listed where
  showsHidden : Bool := false
  /-- Whether the directory itself and the one above it are listed. -/
  showsSelf : Bool := false
  isReversed : Bool := false
  /-- Whether a sign tells what an entry is, and whether it does so only for directories. -/
  marks : Bool := false
  marksDirectories : Bool := false
  goesDown : Bool := false
  isQuoted : Bool := false
  separator : String := "\n"
  deriving DecidableEq, Repr

/-- The sign behind the name of an entry. -/
def Listed.mark (listed : Listed) (node? : Option Node) : String :=
  match node? with
  | some (.directory _) => if listed.marks || listed.marksDirectories then "/" else ""
  | some (.link _) => if listed.marks then "@" else ""
  | some node => if listed.marks && node.isExecutable then "*" else ""
  | none => ""

/-- The lines for names in a directory. -/
def Listed.lines (listed : Listed) (directory : String) (names : List String) : Job String := do
  let shown ← names.mapM fun name ↦ do
    let node ← Job.linkStat (if directory = "" then name else within directory name)
    let name := if listed.isQuoted then "\"" ++ name ++ "\"" else name
    return name ++ listed.mark node.toOption
  return if shown.isEmpty then "" else listed.separator.intercalate shown ++ "\n"

/-- The names in a directory that are listed, in order. -/
def Listed.names (listed : Listed) (names : List String) : List String :=
  let visible := names.filter fun name ↦ listed.showsHidden || name.toList.head? != some '.'
  let all := if listed.showsSelf then "." :: ".." :: visible else visible
  let sorted := all.mergeSort fun a b ↦ decide (a ≤ b)
  if listed.isReversed then sorted.reverse else sorted

/-- List a directory, and those below it for so many levels. -/
def Listed.directory (listed : Listed) (name : String) (hasHeader : Bool) :
    Nat → String → Job Report
  | 0, _ => return {}
  | levels + 1, path => do
    match ← Job.list path with
    | .error error =>
      return failure name ("cannot open directory " ++ quote path ++ ": " ++ error.reason) 2
    | .ok names =>
      let names := listed.names names
      let header := if hasHeader then path ++ ":\n" else ""
      let first : Report := { stdout := Octets.toBytes (header ++ (← listed.lines path names)) }
      if !listed.goesDown then return first
      let below ← (names.filter (· ∉ [".", ".."])).filterMapM fun name ↦ do
        let path := within path name
        return match ← Job.linkStat path with
          | .ok (.directory _) => some path
          | _ => none
      let others ← below.mapM fun path ↦ do
        let report ← listed.directory name true levels path
        return { report with stdout := 10 :: report.stdout }
      return others.foldl Report.append first

/-- List files and directories. -/
def ls : Utility :=
  withOptions
    [⟨'a', "all", .none⟩, ⟨'A', "almost-all", .none⟩, ⟨'1', "", .none⟩, ⟨'d', "directory", .none⟩,
      ⟨'F', "classify", .maybe⟩, ⟨'p', "", .none⟩, ⟨'R', "recursive", .none⟩,
      ⟨'r', "reverse", .none⟩, ⟨'m', "", .none⟩, ⟨'Q', "quote-name", .none⟩, ⟨'U', "", .none⟩,
      ⟨'t', "", .none⟩, ⟨'S', "", .none⟩, ⟨'h', "human-readable", .none⟩, ⟨'B', "", .none⟩,
      ⟨'w', "width", .one⟩, ⟨'N', "literal", .none⟩, ⟨'L', "dereference", .none⟩]
    (fun name parsed ↦ do
      let listed : Listed :=
        { showsHidden := parsed.has 'a' || parsed.has 'A'
          showsSelf := parsed.has 'a'
          isReversed := parsed.has 'r'
          marks := parsed.has 'F'
          marksDirectories := parsed.has 'p'
          goesDown := parsed.has 'R'
          isQuoted := parsed.has 'Q'
          separator := if parsed.has 'm' then ", " else "\n" }
      let operands := if parsed.operands.isEmpty then ["."] else parsed.operands
      let isItself := parsed.has 'd'
      let entries ← operands.mapM fun path ↦ do
        let node ← Job.linkStat path
        let target ← Job.stat path
        let isDirectory := match node, target with
          | .ok (.directory _), _ => true
          | _, .ok (.directory _) => !parsed.has 'F'
          | _, _ => false
        return (path, node, isDirectory)
      let missing := entries.filterMap fun (path, node, _) ↦
        match node with
        | .error error =>
          some (failure name ("cannot access " ++ quote path ++ ": " ++ error.reason) 2)
        | .ok _ => none
      let found := entries.filter fun (_, node, _) ↦ node.toOption.isSome
      let (directories, files) := found.partition fun entry ↦ entry.2.2 && !isItself
      let sorted (paths : List String) : List String :=
        let sorted := paths.mergeSort fun a b ↦ decide (a ≤ b)
        if listed.isReversed then sorted.reverse else sorted
      let lines ← listed.lines "" (sorted (files.map Prod.fst))
      let isAlone := operands.length = 1 && !listed.goesDown
      let reports ← (sorted (directories.map Prod.fst)).mapM fun path ↦
        listed.directory name (!isAlone) 100 path
      let first : Report := { stdout := Octets.toBytes lines }
      let apart (report : Report) : Report := { report with stdout := 10 :: report.stdout }
      let reports := match reports, lines.isEmpty with
        | [], _ => []
        | head :: rest, true => head :: rest.map apart
        | reports, false => reports.map apart
      finish name ((missing ++ first :: reports).foldl Report.append {}))
    true 2

/-! ## Where paths lead -/

/-- Which names of a path must lead to something. -/
inductive Existence where
  | all
  | allButLast
  | none
  deriving DecidableEq, Repr

/-- The place that a path leads to. -/
def resolve (existence : Existence) (tree : FileTree) (here : Place) (path : String) :
    Except FileError Place := do
  match existence with
  | .all =>
    let place ← tree.locate here path
    if (tree.node? place).isSome then return place else throw .noEntry
  | .allButLast => tree.locate here path
  | .none =>
    match tree.locate here path with
    | .ok place => return place
    | .error _ =>
      let origin := FileTree.origin here path
      return (Path.reduce true (Path.names (Place.path origin ++ "/" ++ path).toList)).map
        String.ofList

/-- Show where links lead, or where paths lead. -/
def readlink : Utility :=
  withOptions [⟨'f', "canonicalize", .none⟩, ⟨'e', "canonicalize-existing", .none⟩,
      ⟨'m', "canonicalize-missing", .none⟩, ⟨'n', "no-newline", .none⟩, ⟨'q', "quiet", .none⟩,
      ⟨'s', "silent", .none⟩, ⟨'v', "verbose", .none⟩, ⟨'z', "zero", .none⟩]
    fun name parsed ↦ do
      if parsed.operands.isEmpty then finish name (misuse name "missing operand")
      else
        let existence? : Option Existence :=
          match (parsed.given.filter fun entry ↦ entry.1 ∈ ['f', 'e', 'm']).getLast? with
          | some ('f', _) => some .allButLast
          | some ('e', _) => some .all
          | some _ => some .none
          | none => none
        let answers ← parsed.operands.mapM fun path ↦ do
          match existence? with
          | some existence =>
            let place := resolve existence (← get).tree (← read).cwd (Octets.toText path)
            return place.toOption.map fun place ↦ Octets.ofText place.path
          | none =>
            match ← Job.linkStat path with
            | .ok (.link target) => return some (Octets.ofText target)
            | _ => return none
        let ending := if parsed.has 'n' && parsed.operands.length = 1 then ""
          else if parsed.has 'z' then "\x00" else "\n"
        let text := String.join ((answers.filterMap id).map (· ++ ending))
        finish name
          { stdout := Octets.toBytes text, status := if answers.all Option.isSome then 0 else 1 }

/-- Show where paths lead. -/
def realpath : Utility :=
  withOptions [⟨'e', "canonicalize-existing", .none⟩, ⟨'m', "canonicalize-missing", .none⟩,
      ⟨'s', "strip", .none⟩, ⟨'q', "quiet", .none⟩, ⟨'z', "zero", .none⟩,
      ⟨'L', "logical", .none⟩, ⟨'P', "physical", .none⟩]
    fun name parsed ↦ do
      if parsed.operands.isEmpty then finish name (misuse name "missing operand")
      else
        let existence : Existence :=
          if parsed.has 'e' then .all else if parsed.has 'm' then .none else .allButLast
        let reports ← parsed.operands.mapM fun path ↦ do
          let tree := (← get).tree
          let here := (← read).cwd
          match resolve existence tree here (Octets.toText path) with
          | .error error =>
            return if parsed.has 'q' then { status := 1 }
              else failure name (path ++ ": " ++ error.reason)
          | .ok place =>
            let written := if parsed.has 's'
              then Path.normalize (Path.join here.path (Octets.toText path)) else place.path
            let ending := if parsed.has 'z' then "\x00" else "\n"
            return { stdout := Octets.toBytes (Octets.ofText written ++ ending) }
        finish name (reports.foldl Report.append {})

end LineShell.Utility
