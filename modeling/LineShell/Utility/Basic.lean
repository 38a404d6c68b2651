import LineShell.Process.Basic

/-!
# Utilities

The programs that a machine has besides the interpreter of scripts. A utility is called by a name
with arguments and comes to a status; most of them only read their input and their files, and are
functions to a report: what goes to the standard error, and after it what goes to the standard
output.

Options are read in one way by all utilities. They may stand between operands, several short ones
may be written together, a long one may be shortened as long as it means only one, and two dashes
end them.
-/

namespace LineShell

/-- What a utility does, given its name and its arguments. -/
abbrev Utility := String → List String → Job Int

/-- What a utility writes, and its status. Errors are written first. -/
structure Report where
  stdout : Bytes := []
  stderr : String := ""
  status : Int := 0
  deriving DecidableEq, Repr

/-- Put one report after another. A failure of either one remains. -/
def Report.append (first second : Report) : Report where
  stdout := first.stdout ++ second.stdout
  stderr := first.stderr ++ second.stderr
  status := if second.status = 0 then first.status else second.status

namespace Utility

/-! ## Writing -/

/-- Write to the standard output. A failure is reported. -/
def put (name : String) (bytes : Bytes) : Job Bool := do
  match ← Job.write 1 bytes with
  | .ok () => return true
  | .error error =>
    Job.complain (name ++ ": write error: " ++ error.reason ++ "\n")
    return false

/-- Write a report, and come to its status. -/
def finish (name : String) (report : Report) : Job Int := do
  Job.complain report.stderr
  let isWritten ← if report.stdout.isEmpty then pure true else put name report.stdout
  return if isWritten then report.status else 1

/-- A report of a failure. -/
def failure (name message : String) (status : Int := 1) : Report :=
  { stderr := name ++ ": " ++ message ++ "\n", status }

/-- A report of a wrong use, which points to the help. -/
def misuse (name message : String) (status : Int := 1) : Report :=
  { stderr := name ++ ": " ++ message ++ "\nTry '" ++ name ++ " --help' for more information.\n"
    status }

/-- What lines of text are written as. -/
def linesToBytes (lines : List String) : Bytes :=
  Octets.toBytes (String.join (lines.map (· ++ "\n")))

/-- A text between single quotes. -/
def quote (text : String) : String :=
  "'" ++ text ++ "'"

/-! ## Options -/

/-- Whether an option has a value. -/
inductive Arity where
  | none
  | one
  /-- It has one only if that is written together with it. -/
  | maybe
  deriving DecidableEq, Repr

/-- An option: its letter, which stands for it also where it has none to be written, and its long
name, if it has one. -/
structure Flag where
  letter : Char
  long : String := ""
  arity : Arity := .none
  deriving DecidableEq, Repr

/-- The options that were given, in order, and the operands. -/
structure Parsed where
  given : List (Char × String) := []
  operands : List String := []
  deriving DecidableEq, Repr

namespace Parsed

/-- Whether an option was given. -/
def has (parsed : Parsed) (letter : Char) : Bool :=
  parsed.given.any fun entry ↦ entry.1 = letter

/-- The value that an option was given last. -/
def value? (parsed : Parsed) (letter : Char) : Option String :=
  (parsed.given.reverse.find? fun entry ↦ entry.1 = letter).map Prod.snd

/-- Add an option in front of the others. -/
def give (parsed : Parsed) (letter : Char) (value : String) : Parsed :=
  { parsed with given := (letter, value) :: parsed.given }

end Parsed

/-- Read short options that are written together, with the arguments after them. -/
def readLetters (flags : List Flag) :
    List Char → List String → Except String (List (Char × String) × List String)
  | [], after => .ok ([], after)
  | c :: rest, after =>
    match flags.find? fun flag ↦ flag.letter = c with
    | none => .error ("invalid option -- " ++ quote (String.ofList [c]))
    | some flag =>
      match flag.arity, rest, after with
      | .none, _, _ => do
        let (given, after) ← readLetters flags rest after
        return ((c, "") :: given, after)
      | .maybe, _, _ => .ok ([(c, String.ofList rest)], after)
      | .one, [], value :: after => .ok ([(c, value)], after)
      | .one, [], [] =>
        .error ("option requires an argument -- " ++ quote (String.ofList [c]))
      | .one, _ :: _, _ => .ok ([(c, String.ofList rest)], after)

/-- The options that a long name may mean. -/
def candidates (flags : List Flag) (name : String) : List Flag :=
  match flags.find? fun flag ↦ flag.long = name with
  | some flag => [flag]
  | none => flags.filter fun flag ↦ flag.long ≠ "" && name.toList.isPrefixOf flag.long.toList

/-- Read a long option, with the arguments after it. -/
def readLong (flags : List Flag) (text : List Char) (after : List String) :
    Except String ((Char × String) × List String) :=
  let name := String.ofList (text.takeWhile (· != '='))
  let value? := match text.dropWhile (· != '=') with
    | [] => none
    | _ :: value => some (String.ofList value)
  match candidates flags name with
  | [] => .error ("unrecognized option " ++ quote ("--" ++ String.ofList text))
  | [flag] =>
    match flag.arity, value?, after with
    | .none, none, _ => .ok ((flag.letter, ""), after)
    | .none, some _, _ =>
      .error ("option " ++ quote ("--" ++ flag.long) ++ " doesn't allow an argument")
    | _, some value, _ => .ok ((flag.letter, value), after)
    | .maybe, none, _ => .ok ((flag.letter, ""), after)
    | .one, none, value :: after => .ok ((flag.letter, value), after)
    | .one, none, [] =>
      .error ("option " ++ quote ("--" ++ flag.long) ++ " requires an argument")
  | several =>
    .error ("option " ++ quote ("--" ++ String.ofList text) ++ " is ambiguous; possibilities:"
      ++ String.join (several.map fun flag ↦ " " ++ quote ("--" ++ flag.long)))

/-- Read arguments, at most so many. Operands end the options if no options may stand between
them. The value of an option may be more arguments, which are read after it. -/
def readArguments (flags : List Flag) (mixed : Bool) (opened : Char × String → List String) :
    Nat → List String → Except String Parsed
  | 0, operands => .ok { operands }
  | _, [] => .ok {}
  | steps + 1, argument :: after =>
    match argument.toList with
    | ['-', '-'] => .ok { operands := after }
    | '-' :: '-' :: text => do
      let ((letter, value), after) ← readLong flags text after
      let parsed ← readArguments flags mixed opened steps (opened (letter, value) ++ after)
      return parsed.give letter value
    | '-' :: c :: rest => do
      let (given, after) ← readLetters flags (c :: rest) after
      let parsed ← readArguments flags mixed opened steps (given.flatMap opened ++ after)
      return { parsed with given := given ++ parsed.given }
    | _ =>
      if mixed then do
        let parsed ← readArguments flags mixed opened steps after
        return { parsed with operands := argument :: parsed.operands }
      else .ok { operands := argument :: after }

/-- Do something with the options and operands of a utility. -/
def withOptions (flags : List Flag) (body : String → Parsed → Job Int) (mixed : Bool := true)
    (status : Int := 1) : Utility := fun name args ↦
  match readArguments flags mixed (fun _ ↦ []) (args.length + 1) args with
  | .ok parsed => body name parsed
  | .error message => finish name (misuse name message status)

/-! ## Inputs -/

/-- What a file holds. A dash is the standard input. -/
def readInput (path : String) : Job (Except FileError Bytes) :=
  if path = "-" then Job.readAll 0 else Job.readFile path

/-- The lines of bytes, each without its line feed, and whether the last one has a line feed. -/
def splitLines (bytes : Bytes) : List Bytes × Bool :=
  go bytes [] []
where
  /-- The lines of bytes after a line that has begun and lines before it, both reversed. -/
  go : Bytes → Bytes → List Bytes → List Bytes × Bool
    | [], [], lines => (lines.reverse, true)
    | [], line, lines => ((line.reverse :: lines).reverse, false)
    | byte :: rest, line, lines =>
      if byte = 10 then go rest [] (line.reverse :: lines) else go rest (byte :: line) lines

/-- The bytes of lines. -/
def joinLines (lines : List Bytes) (isComplete : Bool) : Bytes :=
  match lines, isComplete with
  | [], _ => []
  | lines, true => lines.flatMap (· ++ [10])
  | lines, false => (lines.flatMap (· ++ [10])).dropLast

/-- The report of a function on each input; an input that cannot be read is reported. Without
operands the standard input is read. -/
def forInputs (name : String) (operands : List String) (body : String → Bytes → Job Report)
    (complaint : String → FileError → String :=
      fun path error ↦ path ++ ": " ++ error.reason) : Job Report := do
  let paths := if operands.isEmpty then ["-"] else operands
  let reports ← paths.mapM fun path ↦ do
    match ← readInput path with
    | .ok bytes => body path bytes
    | .error error => return failure name (complaint path error)
  return reports.foldl Report.append {}

/-! ## Numbers -/

/-- The number that decimal digits stand for. -/
def natural? (text : String) : Option Nat :=
  if !text.isEmpty && text.toList.all Char.isDigit then
    some (text.toList.foldl (fun number c ↦ 10 * number + (c.toNat - '0'.toNat)) 0)
  else none

/-- The integer that a text stands for. -/
def integer? (text : String) : Option Int :=
  match text.toList with
  | '-' :: digits => (natural? (String.ofList digits)).map fun number ↦ -(number : Int)
  | '+' :: digits => (natural? (String.ofList digits)).map Int.ofNat
  | _ => (natural? text).map Int.ofNat

/-- A text with blanks in front up to a width. -/
def padLeft (width : Nat) (text : String) : String :=
  String.ofList (List.replicate (width - text.length) ' ') ++ text

end Utility

end LineShell
