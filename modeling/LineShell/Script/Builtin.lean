import LineShell.Script.State
import LineShell.Utility.Condition
import LineShell.Utility.Echo
import LineShell.Utility.Printf

/-!
# Commands of the interpreter

The commands that the interpreter runs itself, because they change or show its state or because they
are used so often. Such a command is given its arguments and comes to a status. When it fails it
stops with a message that begins with its name; whoever has called it decides what that ends.

Here are the parts that these commands share, and those that only print or compare something.
-/

namespace LineShell.Script

/-- What a command of the interpreter does, given its arguments. -/
abbrev Builtin := List String → Act Int

namespace Builtin

/-! ## Writing -/

/-- Write a text to the standard output. -/
def put (text : String) : Act Int := do
  if text.isEmpty then return 0
  match ← Act.job (Job.write 1 (Octets.toBytes text)) with
  | .ok () => return 0
  | .error _ =>
    Act.complain (((← get).speaker.getD "") ++ ": I/O error")
    return 1

/-- Write lines to the standard output. -/
def putLines (lines : List String) : Act Int :=
  put (String.join (lines.map (· ++ "\n")))

/-- Write a text to the standard error. -/
def putError (text : String) : Act Unit :=
  Act.job (Job.complain text)

/-! ## Arguments -/

/-- Read letters that are written together. A letter that a colon follows in the list of those that
are allowed takes the rest, or the next argument, as its value. -/
def readLetters (allowed : List Char) :
    List Char → List String → Act (List (Char × String) × List String)
  | [], after => return ([], after)
  | c :: rest, after =>
    match allowed.dropWhile (· != c), rest, after with
    | [], _, _ => Act.fail (String.ofList ("Illegal option -".toList ++ [c]))
    | _ :: ':' :: _, [], value :: after => return ([(c, value)], after)
    | _ :: ':' :: _, [], [] => Act.fail (String.ofList ("No arg for -".toList ++ [c]) ++ " option")
    | _ :: ':' :: _, rest, after => return ([(c, String.ofList rest)], after)
    | _, rest, after => do
      let (given, after) ← readLetters allowed rest after
      return ((c, "") :: given, after)

/-- Read the options in front of arguments, at most so many. -/
def readOptions (allowed : List Char) : Nat → List String → Act (List (Char × String) × List String)
  | 0, args => return ([], args)
  | _, [] => return ([], [])
  | steps + 1, argument :: after => do
    match argument.toList with
    | ['-', '-'] => return ([], after)
    | '-' :: c :: rest =>
      let (given, after) ← readLetters allowed (c :: rest) after
      let (more, after) ← readOptions allowed steps after
      return (given ++ more, after)
    | _ => return ([], argument :: after)

/-- The options in front of arguments, and what follows them. -/
def options (allowed : String) (args : List String) :
    Act (List (Char × String) × List String) :=
  readOptions allowed.toList (args.length + 1) args

/-- Arguments after options of which there must be none. -/
def operands (args : List String) : Act (List String) :=
  return (← options "" args).2

/-- The number that an argument must be. -/
def number (text : String) : Act Nat := do
  match Utility.natural? text with
  | some number => return number
  | none => Act.fail ("Illegal number: " ++ text)

/-- A text between quotes, so that it can be read again. -/
def quoted (text : String) : String :=
  String.join (go (text.length + 1) text.toList)
where
  /-- The quoted parts of a text. -/
  go : Nat → List Char → List String
    | 0, _ => []
    | steps + 1, cs =>
      let plain := cs.takeWhile (· != '\'')
      let quotes := (cs.drop plain.length).takeWhile (· == '\'')
      let rest := cs.drop (plain.length + quotes.length)
      ["'", String.ofList plain, "'"]
        ++ (if quotes.isEmpty then [] else ["\"", String.ofList quotes, "\""])
        ++ (if rest.isEmpty then [] else go steps rest)

/-! ## Printing and comparing -/

/-- Print the arguments. -/
def echo : Builtin := fun args ↦
  put (Utility.ownEcho args)

/-- Print as a format says. -/
def printf : Builtin := fun args ↦ do
  match ← operands args with
  | [] => Act.fail "usage: printf format [arg ...]"
  | format :: args =>
    let (text, complaints, status) := Utility.printed Utility.ownDialect format args
    complaints.forM Act.complain
    let written ← put text
    return if status = 0 then written else status

/-- Whether a condition holds. -/
def test : Builtin := fun args ↦ do
  match ← Act.job (Utility.OwnCondition.run args) with
  | .ok holds => return if holds then 0 else 1
  | .error message => Act.fail message

/-- Whether a condition holds, which a bracket closes. -/
def bracket : Builtin := fun args ↦ do
  if args.getLast? = some "]" then test args.dropLast else Act.fail "missing ]"

/-! ## Commands that only come to something -/

/-- The number of this kind of commands is their status. -/
def constant (status : Int) : Builtin := fun _ ↦ return status

/-- The users whose permissions a letter of a mode means. -/
def usersOf : Char → Nat
  | 'u' => 0o700
  | 'g' => 0o070
  | 'o' => 0o007
  | 'a' => 0o777
  | _ => 0

/-- The permissions that a letter of a mode means, among those that are granted to each kind of
user. -/
def permissionsOf (granted : Nat) : Char → Nat
  | 'r' => 0o444
  | 'w' => 0o222
  | 'x' => 0o111
  | 'X' => if granted &&& 0o111 = 0 then 0 else 0o111
  | 'u' => 0o111 * (granted / 0o100 % 8)
  | 'g' => 0o111 * (granted / 0o010 % 8)
  | 'o' => 0o111 * (granted % 8)
  | _ => 0

/-- The permissions that are granted after an action of a mode on those of some users. -/
def actOn (granted users : Nat) (action : Char) (letters : List Char) : Nat :=
  let meant := letters.foldl (fun meant c ↦ meant ||| permissionsOf granted c) 0 &&& users
  match action with
  | '+' => granted ||| meant
  | '-' => granted ^^^ (granted &&& meant)
  | _ => (granted ^^^ (granted &&& users)) ||| meant

/-- The permissions that are granted after at most so many actions of a mode. -/
def actAll (users : Nat) : Nat → Nat → List Char → Option Nat
  | _, granted, [] => some granted
  | 0, _, _ => none
  | steps + 1, granted, action :: rest =>
    let letters := rest.takeWhile (· ∈ "rwxXsugo".toList)
    if action ∈ ['+', '-', '='] then
      actAll users steps (actOn granted users action letters) (rest.drop letters.length)
    else none

/-- The permissions that are granted after the clauses of a mode in words. Without a letter for
users a clause is about all of them, and the last clause may do nothing. -/
def grantedAfter? (granted : Nat) : List String → Option Nat
  | [] => some granted
  | clause :: clauses =>
    let cs := clause.toList
    let letters := cs.takeWhile (· ∈ "ugoa".toList)
    let users := letters.foldl (fun users c ↦ users ||| usersOf c) 0
    if letters.length = cs.length then if clauses.isEmpty then some granted else none
    else do
      let all := if users = 0 then 0o777 else users
      grantedAfter? (← actAll all cs.length granted (cs.drop letters.length)) clauses

/-- Show or choose the permissions that new files do not get. -/
def mask : Builtin := fun args ↦ do
  let (given, args) ← options "S" args
  let mask := (← get).mask
  let octal (value : Nat) : String := String.ofList (Nat.toDigits 8 value)
  match args with
  | [] =>
    if given.isEmpty then put (String.ofList (List.replicate (4 - (octal mask).length) '0')
      ++ octal mask ++ "\n")
    else
      let granted (shift : Nat) : String :=
        let bits := 7 - (mask / Nat.pow 8 shift) % 8
        (if bits / 4 % 2 = 1 then "r" else "") ++ (if bits / 2 % 2 = 1 then "w" else "")
          ++ (if bits % 2 = 1 then "x" else "")
      put ("u=" ++ granted 2 ++ ",g=" ++ granted 1 ++ ",o=" ++ granted 0 ++ "\n")
  | text :: _ =>
    let cs := text.toList
    if cs.head?.any Char.isDigit then
      if cs.all fun c ↦ '0' ≤ c && c ≤ '7' then
        let value := cs.foldl (fun value c ↦ 8 * value + (c.toNat - '0'.toNat)) 0
        modify fun run ↦ { run with mask := value % 512 }
        return 0
      else Act.fail ("Illegal number: " ++ text)
    else
      match grantedAfter? (0o777 - mask) (text.splitOn ",") with
      | some granted =>
        modify fun run ↦ { run with mask := 0o777 - granted }
        return 0
      | none => Act.fail ("Illegal mode: " ++ text)

/-- The alias of a name, as it is shown. -/
def showAlias (name value : String) : String :=
  name ++ "=" ++ quoted value ++ "\n"

/-- Set or show aliases. -/
def aliasNames : Builtin := fun args ↦ do
  if args.isEmpty then
    put (String.join ((← get).aliases.map fun (name, value) ↦ showAlias name value))
  else
    let statuses ← args.mapM fun argument ↦ do
      let name := String.ofList (argument.toList.takeWhile (· != '='))
      match argument.toList.dropWhile (· != '='), (← get).aliases.find? (·.1 = name) with
      | _ :: value, _ =>
        modify fun run ↦
          { run with aliases := (name, String.ofList value) :: run.aliases.filter (·.1 ≠ name) }
        return (0 : Int)
      | [], some (name, value) => put (showAlias name value)
      | [], none =>
        putError ("alias: " ++ name ++ " not found\n")
        return 1
    return if statuses.all (· == 0) then 0 else 1

/-- Forget aliases. -/
def unalias : Builtin := fun args ↦ do
  let (given, names) ← options "a" args
  if !given.isEmpty then
    modify fun run ↦ { run with aliases := [] }
    return 0
  let statuses ← names.mapM fun name ↦ do
    if (← get).aliases.any (·.1 = name) then
      modify fun run ↦ { run with aliases := run.aliases.filter (·.1 ≠ name) }
      return (0 : Int)
    else
      putError ("unalias: " ++ name ++ " not found\n")
      return 1
  return if statuses.all (· == 0) then 0 else 1

end Builtin

end LineShell.Script
