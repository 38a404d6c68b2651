import LineShell.Utility.Basic

/-!
# Copying inputs

Utilities that copy their inputs, whole or in part, and those that count what is in them.
-/

namespace LineShell.Utility

/-! ## Whole inputs -/

/-- How bytes are shown while they are copied. -/
structure Showing where
  numbers : Bool := false
  /-- Only lines that are not empty are numbered. -/
  skipsEmpty : Bool := false
  squeezes : Bool := false
  ends : Bool := false
  tabs : Bool := false
  control : Bool := false
  deriving DecidableEq, Repr

/-- Where in its output a copy is. -/
structure Copying where
  line : Nat := 0
  /-- How many line feeds have just been written. The output begins as if after one. -/
  feeds : Nat := 1
  deriving DecidableEq, Repr

/-- A byte as it is shown. -/
def Showing.byte (showing : Showing) (byte : UInt8) : String :=
  let caret (number : Nat) : String :=
    if number < 32 then "^" ++ String.ofList [Char.ofNat (number + 64)]
    else if number = 127 then "^?"
    else String.ofList [Char.ofNat number]
  let number := byte.toNat
  if number = 9 then if showing.tabs then "^I" else "\t"
  else if !showing.control then String.ofList [Char.ofNat number]
  else if number < 128 then caret number
  else "M-" ++ caret (number - 128)

/-- What bytes are shown as, after pieces of text that come last first, and where the copy is
then. -/
def Showing.go (showing : Showing) (copying : Copying) (pieces : List String) :
    Bytes → List String × Copying
  | [] => (pieces, copying)
  | byte :: rest =>
    if byte = 10 then
      if showing.squeezes && 2 ≤ copying.feeds then showing.go copying pieces rest
      else
        let isNumbered := copying.feeds ≠ 0 && showing.numbers && !showing.skipsEmpty
        let line := if isNumbered then copying.line + 1 else copying.line
        let number := if isNumbered then padLeft 6 (toString line) ++ "\t" else ""
        let ending := if showing.ends then "$\n" else "\n"
        showing.go ⟨line, copying.feeds + 1⟩ ((number ++ ending) :: pieces) rest
    else
      let isNumbered := copying.feeds ≠ 0 && showing.numbers
      let line := if isNumbered then copying.line + 1 else copying.line
      let number := if isNumbered then padLeft 6 (toString line) ++ "\t" else ""
      showing.go ⟨line, 0⟩ ((number ++ showing.byte byte) :: pieces) rest

/-- The options for copying. -/
def catFlags : List Flag :=
  [⟨'b', "number-nonblank", .none⟩, ⟨'n', "number", .none⟩, ⟨'s', "squeeze-blank", .none⟩,
    ⟨'v', "show-nonprinting", .none⟩, ⟨'E', "show-ends", .none⟩, ⟨'T', "show-tabs", .none⟩,
    ⟨'A', "show-all", .none⟩, ⟨'e', "", .none⟩, ⟨'t', "", .none⟩, ⟨'u', "", .none⟩]

/-- How options ask for bytes to be shown. -/
def Showing.ofParsed (parsed : Parsed) : Showing where
  numbers := parsed.has 'n' || parsed.has 'b'
  skipsEmpty := parsed.has 'b'
  squeezes := parsed.has 's'
  ends := parsed.has 'E' || parsed.has 'A' || parsed.has 'e'
  tabs := parsed.has 'T' || parsed.has 'A' || parsed.has 't'
  control := parsed.has 'v' || parsed.has 'A' || parsed.has 'e' || parsed.has 't'

/-- The place and the contents of the file that a descriptor leads to, and how far it is read or
written. -/
def openFile? (descriptor : Nat) : Job (Option (Place × Bytes × Nat)) := do
  let system ← get
  match (← read).channel? descriptor >>= fun channel ↦ system.channels[channel]? with
  | some (.file place offset _ _ _) =>
    match system.tree.node? place with
    | some (.file content _) => return some (place, content, offset)
    | _ => return none
  | _ => return none

/-- Whether an input is the file that the output goes to, and has something to be read. Copying
would never end. -/
def isEndless (path : String) : Job Bool := do
  let tree := (← get).tree
  match ← openFile? 1 with
  | none => return false
  | some (output, content, _) =>
    if path = "-" then
      return (← openFile? 0).any fun (input, _, offset) ↦ input == output && offset < content.length
    else
      let place := tree.locate (← read).cwd (Octets.toText path)
      return place.toOption == some output && !content.isEmpty

/-- Copy inputs, one after another. -/
def catAll (name : String) (showing : Showing) : Copying → List String → Job Int
  | _, [] => return 0
  | copying, path :: rest => do
    let answer ← if ← isEndless path then pure (Except.error "input file is output file")
      else (·.mapError FileError.reason) <$> readInput path
    match answer with
    | .error reason =>
      Job.complain (name ++ ": " ++ path ++ ": " ++ reason ++ "\n")
      discard (catAll name showing copying rest)
      return 1
    | .ok bytes =>
      let isPlain := showing = {}
      let (pieces, copying) := if isPlain then ([], copying) else showing.go copying [] bytes
      let shown := if isPlain then bytes else Octets.toBytes (String.join pieces.reverse)
      if shown.isEmpty then catAll name showing copying rest
      else if ← put name shown then catAll name showing copying rest
      else return 1

/-- Copy inputs. -/
def cat : Utility :=
  withOptions catFlags fun name parsed ↦ do
    let paths := if parsed.operands.isEmpty then ["-"] else parsed.operands
    let status ← catAll name (.ofParsed parsed) {} paths
    if paths.contains "-" && ((← read).channel? 0).isNone then
      Job.complain (name ++ ": closing standard input: " ++ FileError.badDescriptor.reason ++ "\n")
      return 1
    return status

/-- Copy inputs with the lines of each in reverse. -/
def tac : Utility :=
  withOptions [] fun name parsed ↦ do
    let report ← forInputs name parsed.operands (fun _ bytes ↦ do
        let (lines, isComplete) := splitLines bytes
        let reversed := match isComplete, lines.reverse with
          | false, last :: rest => last ++ joinLines rest true
          | _, lines => joinLines lines true
        return { stdout := reversed })
      fun path error ↦
        if error = .isDirectory then path ++ ": read error: Is a directory"
        else "failed to open " ++ quote path ++ " for reading: " ++ error.reason
    finish name report

/-- Copy the standard input to the standard output and to files. -/
def tee : Utility :=
  withOptions [⟨'a', "append", .none⟩, ⟨'i', "ignore-interrupts", .none⟩] fun name parsed ↦ do
    let bytes ← match ← Job.readAll 0 with
      | .ok bytes => pure bytes
      | .error _ => pure []
    let access : System.Access := if parsed.has 'a' then .append else .create
    let statuses ← parsed.operands.mapM fun path ↦ do
      let system ← get
      let opened := (← read).openPath system access path
      let written := opened.bind fun (channel, system) ↦ system.writeTo channel bytes
      match written with
      | .ok system =>
        set system
        return 0
      | .error error =>
        Job.complain (name ++ ": " ++ path ++ ": " ++ error.reason ++ "\n")
        return (1 : Int)
    let isWritten ← put name bytes
    return if isWritten && statuses.all (· == 0) then 0 else 1

/-! ## Parts of inputs -/

/-- The factor that a letter after a number stands for. -/
def multiplier? (suffix : String) : Option Nat :=
  match suffix with
  | "" => some 1
  | "b" => some 512
  | "kB" => some 1000
  | "K" | "k" | "KiB" => some 1024
  | "M" | "MiB" => some (1024 * 1024)
  | "MB" => some (1000 * 1000)
  | "G" | "GiB" => some (1024 * 1024 * 1024)
  | "GB" => some (1000 * 1000 * 1000)
  | _ => none

/-- A count with a letter after it. -/
def count? (text : String) : Option Nat := do
  let digits := text.toList.takeWhile Char.isDigit
  let number ← natural? (String.ofList digits)
  let factor ← multiplier? (String.ofList (text.toList.drop digits.length))
  return number * factor

/-- What part of an input is copied: so many lines or bytes, from its start or its end. -/
structure Extent where
  bytes : Bool := false
  /-- Whether the count tells what is left out. -/
  leavesOut : Bool := false
  count : Nat := 10
  deriving DecidableEq, Repr

/-- The extent that an option asks for. -/
def Extent.ofOption (bytes : Bool) (mark : Char) (value : String) : Except String Extent :=
  let (leavesOut, digits) := match value.toList with
    | c :: rest => if c = mark then (true, String.ofList rest) else
        if mark = '+' && c = '-' then (false, String.ofList rest) else (false, value)
    | [] => (false, "")
  match count? digits with
  | some count => .ok { bytes, leavesOut, count }
  | none =>
    .error ("invalid number of " ++ (if bytes then "bytes" else "lines") ++ ": "
      ++ quote (if mark = '-' && leavesOut then digits else value))

/-- Take a part from the start of an input. -/
def Extent.head (extent : Extent) (bytes : Bytes) : Bytes :=
  if extent.bytes then
    bytes.take (if extent.leavesOut then bytes.length - extent.count else extent.count)
  else
    let (lines, isComplete) := splitLines bytes
    let count := if extent.leavesOut then lines.length - extent.count else extent.count
    joinLines (lines.take count) (isComplete || count < lines.length)

/-- Take a part from the end of an input. -/
def Extent.tail (extent : Extent) (bytes : Bytes) : Bytes :=
  if extent.bytes then
    bytes.drop (if extent.leavesOut then extent.count - 1 else bytes.length - extent.count)
  else
    let (lines, isComplete) := splitLines bytes
    let skipped := if extent.leavesOut then extent.count - 1 else lines.length - extent.count
    joinLines (lines.drop skipped) isComplete

/-- Write an old way to ask for a number of lines as an option. -/
def modernize : List String → List String
  | argument :: rest =>
    match argument.toList with
    | '-' :: c :: digits =>
      if c.isDigit && digits.all Char.isDigit then "-n" :: String.ofList (c :: digits) :: rest
      else argument :: rest
    | _ => argument :: rest
  | [] => []

/-- The header in front of an input. -/
def header (path : String) (isFirst : Bool) : String :=
  (if isFirst then "" else "\n") ++ "==> " ++ (if path = "-" then "standard input" else path)
    ++ " <==\n"

/-- Copy a part of each input. -/
def copyParts (name : String) (headers : Bool) (part : Bytes → Bytes) :
    List String → (isFirst : Bool) → Job Report
  | [], _ => return {}
  | path :: rest, isFirst => do
    match ← readInput path with
    | .error error =>
      let complaint := if error = .isDirectory then "error reading " ++ quote path ++ ": "
        else "cannot open " ++ quote path ++ " for reading: "
      let shown := if error = .isDirectory && headers then header path isFirst else ""
      let report : Report :=
        { failure name (complaint ++ error.reason) with stdout := Octets.toBytes shown }
      return report.append (← copyParts name headers part rest (isFirst && shown = ""))
    | .ok bytes =>
      let shown := if headers then Octets.toBytes (header path isFirst) else []
      let report : Report := { stdout := shown ++ part bytes }
      return report.append (← copyParts name headers part rest false)

/-- Copy a part of each input, where `mark` is the sign that asks for all but that part. -/
def copyExtents (mark : Char) (part : Extent → Bytes → Bytes) : Utility := fun name args ↦
  withOptions
    [⟨'n', "lines", .one⟩, ⟨'c', "bytes", .one⟩, ⟨'q', "quiet", .none⟩, ⟨'v', "verbose", .none⟩]
    (fun name parsed ↦ do
      let extents := (parsed.given.filter fun entry ↦ entry.1 ∈ ['n', 'c']).mapM
        fun (letter, value) ↦ Extent.ofOption (letter == 'c') mark value
      match extents with
      | .error message => finish name (failure name message)
      | .ok extents =>
        let extent := extents.getLast?.getD {}
        let paths := if parsed.operands.isEmpty then ["-"] else parsed.operands
        let headers := parsed.has 'v' || 1 < paths.length && !parsed.has 'q'
        finish name (← copyParts name headers (part extent) paths true))
    true 1 name (modernize args)

/-- Copy the start of each input. -/
def head : Utility :=
  copyExtents '-' Extent.head

/-- Copy the end of each input. -/
def tail : Utility :=
  copyExtents '+' Extent.tail

/-! ## Counting -/

/-- How many words bytes hold. -/
def countWords (bytes : Bytes) : Nat :=
  let isSpace (byte : UInt8) : Bool := byte == 32 || 9 ≤ byte && byte ≤ 13
  (bytes.foldl (fun (count, inside) byte ↦
    if isSpace byte then (count, false) else (if inside then count else count + 1, true))
    (0, false)).1

/-- The length of the longest line. -/
def longestLine (bytes : Bytes) : Nat :=
  ((splitLines bytes).1.map List.length).foldl max 0

/-- What is counted: lines, words, characters, bytes, and the length of the longest line. -/
def counts (bytes : Bytes) : List (Char × Nat) :=
  [('l', bytes.count 10), ('w', countWords bytes), ('m', bytes.length), ('c', bytes.length),
    ('L', longestLine bytes)]

/-- Add counts up. The length of the longest line is not added. -/
def addCounts (a b : List (Char × Nat)) : List (Char × Nat) :=
  List.zipWith (fun (letter, m) (_, n) ↦ (letter, if letter = 'L' then max m n else m + n)) a b

/-- Count what is in each input. -/
def wc : Utility :=
  withOptions
    [⟨'l', "lines", .none⟩, ⟨'w', "words", .none⟩, ⟨'m', "chars", .none⟩, ⟨'c', "bytes", .none⟩,
      ⟨'L', "max-line-length", .none⟩]
    fun name parsed ↦ do
      let paths := if parsed.operands.isEmpty then ["-"] else parsed.operands
      let answers ← paths.mapM fun path ↦ return (path, ← readInput path)
      let isShown (letter : Char) : Bool :=
        if parsed.given.isEmpty then letter ∈ ['l', 'w', 'c'] else parsed.has letter
      let shown (counted : List (Char × Nat)) : List Nat :=
        (counted.filter fun (letter, _) ↦ isShown letter).map Prod.snd
      let sizes ← paths.mapM fun path ↦ do
        match ← Job.stat? path with
        | some (.file content _) => return content.length
        | _ => return 0
      let isRegular ← paths.allM fun path ↦ do
        match ← Job.stat? path with
        | some (.file _ _) | none => return path ≠ "-"
        | _ => return false
      let total := sizes.foldl (· + ·) 0
      let isAlone := paths.length = 1 && (shown (counts [])).length = 1
      let width := if isAlone then 1 else if isRegular then (toString total).length
        else max 7 (toString total).length
      let line (counted : List (Char × Nat)) (label : String) : String :=
        " ".intercalate ((shown counted).map fun number ↦ padLeft width (toString number))
          ++ label ++ "\n"
      let label (path : String) : String :=
        if parsed.operands.isEmpty then "" else " " ++ path
      let reports := answers.map fun (path, answer) ↦
        match answer with
        | .ok bytes => ({ stdout := Octets.toBytes (line (counts bytes) (label path)) } : Report)
        | .error error =>
          let shown := if error = .isDirectory then line (counts []) (label path) else ""
          { failure name (path ++ ": " ++ error.reason) with stdout := Octets.toBytes shown }
      let sum := answers.foldl (fun sum (_, answer) ↦
        match answer with
        | .ok bytes => addCounts sum (counts bytes)
        | .error _ => sum) (counts [])
      let last : Report :=
        if 1 < paths.length then { stdout := Octets.toBytes (line sum " total") } else {}
      finish name ((reports ++ [last]).foldl Report.append {})

end LineShell.Utility
