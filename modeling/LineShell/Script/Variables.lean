import LineShell.Script.Arithmetic
import LineShell.Script.Builtin

/-!
# Commands on variables and arguments

Commands that set variables, give them properties or make them a function's own, that replace the
arguments or read options from them, and that read lines into variables.

A line that is read is divided like the value of an expansion, except that the last variable gets
all that is left of it.
-/

namespace LineShell.Script.Builtin

/-! ## Properties -/

/-- Split an argument into a name and the value after an equals sign, if there is one. -/
def splitAssignment (argument : String) : String × Option String :=
  let name := argument.toList.takeWhile (· != '=')
  match argument.toList.drop name.length with
  | [] => (argument, none)
  | _ :: value => (String.ofList name, some (String.ofList value))

/-- Stop unless a text is a name for a variable. -/
def checkName (name : String) : Act Unit := do
  if !isName name then Act.fail (name ++ ": bad variable name")

/-- The lines that show variables, in order, after a word if it is not empty. -/
def showBindings (word : String) (isShown : Binding → Bool) : Act (List String) := do
  let shown := (← get).bindings.filter fun entry ↦ isShown entry.2
  let sorted := shown.mergeSort fun a b ↦ decide (a.1 ≤ b.1)
  return sorted.map fun (name, binding) ↦
    let value := match binding.value with
      | some value => "=" ++ quoted value
      | none => ""
    (if word = "" then "" else word ++ " ") ++ name ++ value

/-- Give variables a property, or show those that have it. -/
def property (word : String) (has : Binding → Bool) (give : Binding → Binding) : Builtin :=
  fun args ↦ do
    let (given, names) ← options "p" args
    if names.isEmpty || !given.isEmpty then putLines (← showBindings word has)
    else
      names.forM fun argument ↦ do
        let (name, value?) := splitAssignment argument
        checkName name
        if let some value := value? then Act.assign name value
        modify fun run ↦ run.bind name (give ((run.binding? name).getD {}))
      return 0

/-- Hand variables on to programs. -/
def handOn : Builtin :=
  property "export" Binding.isExported fun binding ↦ { binding with isExported := true }

/-- Let the value of variables remain as it is. -/
def readonly : Builtin :=
  property "readonly" Binding.isReadOnly fun binding ↦ { binding with isReadOnly := true }

/-- Make variables a function's own. -/
def makeOwn : Builtin := fun args ↦ do
  if (← get).locals.isNone then Act.fail "not in a function"
  args.forM fun argument ↦ do
    let (name, value?) := splitAssignment argument
    checkName name
    Act.makeLocal name
    if let some value := value? then Act.assign name value
  return 0

/-- Forget variables or functions. -/
def unset : Builtin := fun args ↦ do
  let (given, names) ← options "vf" args
  names.forM fun name ↦ do
    if given.getLast?.any (·.1 = 'f') then
      modify fun run ↦ { run with functions := run.functions.filter (·.1 ≠ name) }
    else
      checkName name
      if ((← get).binding? name).any Binding.isReadOnly then Act.fail (name ++ ": is read only")
      modify fun run ↦ run.unbind name
  return 0

/-! ## Options -/

/-- The options of the interpreter: their names and their letters, if they have one. -/
def optionNames : List (String × Option Char) :=
  [("errexit", some 'e'), ("noglob", some 'f'), ("ignoreeof", some 'I'),
    ("interactive", some 'i'), ("monitor", some 'm'), ("noexec", some 'n'), ("stdin", some 's'),
    ("xtrace", some 'x'), ("verbose", some 'v'), ("vi", some 'V'), ("emacs", some 'E'),
    ("noclobber", some 'C'), ("allexport", some 'a'), ("notify", some 'b'), ("nounset", some 'u'),
    ("privileged", some 'p'), ("nolog", none), ("debug", none)]

/-- Set an option, or take it back. Options are kept in an order of their own. -/
def setOption (isSet : Bool) (letter : Char) : Act Unit :=
  modify fun run ↦
    { run with
      options := (optionNames.reverse.filterMap Prod.snd).filter fun other ↦
        if other = letter then isSet else run.has other }

/-- Show all options, as commands that set them if they are to be read again. -/
def showOptions (asCommands : Bool) : Act Int := do
  let run ← get
  let isSet (letter? : Option Char) : Bool := letter?.any run.has
  if asCommands then
    putLines (optionNames.map fun (name, letter?) ↦
      (if isSet letter? then "set -o " else "set +o ") ++ name)
  else
    putLines ("Current option settings" :: optionNames.map fun (name, letter?) ↦
      name ++ String.ofList (List.replicate (16 - name.length) ' ')
        ++ (if isSet letter? then "on" else "off"))

/-- Follow the letters of an argument that sets options, given the arguments after it. -/
def followLetters (isSet : Bool) : List Char → List String → Act (List String)
  | [], after => return after
  | 'o' :: rest, name :: after => do
    match optionNames.find? (·.1 = name) with
    | some (_, some letter) => setOption isSet letter
    | some (_, none) => pure ()
    | none => Act.fail ("Illegal option -o " ++ name)
    followLetters isSet rest after
  | 'o' :: rest, [] => do
    discard (showOptions !isSet)
    followLetters isSet rest []
  | c :: rest, after => do
    if (optionNames.any (·.2 = some c)) then setOption isSet c
    else Act.fail (String.ofList ("Illegal option -".toList ++ [c]))
    followLetters isSet rest after

/-- Follow the arguments that set options, at most so many. What is left are new arguments, if
there are to be any. -/
def followOptions : Nat → List String → Act (Option (List String))
  | 0, _ | _, [] => return none
  | steps + 1, argument :: after => do
    match argument.toList with
    | ['-', '-'] => return some after
    | ['-'] =>
      setOption false 'x'
      setOption false 'v'
      return if after.isEmpty then none else some after
    | '-' :: letters => followOptions steps (← followLetters true letters after)
    | '+' :: letters => followOptions steps (← followLetters false letters after)
    | _ => return some (argument :: after)

/-- Set options and arguments, or show all variables. -/
def set : Builtin := fun args ↦ do
  if args.isEmpty then putLines (← showBindings "" fun binding ↦ binding.value.isSome)
  else
    if let some arguments ← followOptions (args.length + 1) args then
      modify fun run ↦ { run with arguments, optionOffset := 0 }
    return 0

/-! ## Arguments -/

/-- Take arguments away from the front. -/
def shift : Builtin := fun args ↦ do
  let count ← match args with
    | [] => pure 1
    | text :: _ => number text
  let arguments := (← get).arguments
  if arguments.length < count then Act.fail "can't shift that many"
  modify fun run ↦ { run with arguments := arguments.drop count, optionOffset := 0 }
  return 0

/-- What the reading of one option from arguments comes to. -/
structure OptionRead where
  /-- The name that stands for the option. -/
  name : String
  /-- The value of the option; there is no answer if the last one remains. -/
  value : Option String := none
  /-- Whether the option is none of those that are allowed, or lacks its value. -/
  problem : Option String := none
  /-- How many arguments have been begun. -/
  begun : Nat
  /-- How far the last of them has been read, unless it has been read to its end. -/
  offset : Nat := 0
  isEnd : Bool := false

/-- Read the option that a letter stands for, where so many arguments have been begun and the last
of them goes on after it. -/
def readOption (allowed : List Char) (args : List String) (begun offset : Nat) (c : Char)
    (rest : List Char) : OptionRead :=
  let isSilent := allowed.head? == some ':'
  let letter := String.ofList [c]
  let offset := if rest.isEmpty then 0 else offset + 1
  match (if c = ':' then [] else allowed.dropWhile (· != c)), rest, args[begun]? with
  | [], _, _ =>
    if isSilent then { name := "?", value := letter, begun, offset }
    else { name := "?", problem := "Illegal option -" ++ letter, begun, offset }
  | _ :: ':' :: _, _ :: _, _ => { name := letter, value := String.ofList rest, begun }
  | _ :: ':' :: _, [], some value => { name := letter, value, begun := begun + 1 }
  | _ :: ':' :: _, [], none =>
    if isSilent then { name := ":", value := letter, begun }
    else { name := "?", problem := "No arg for -" ++ letter ++ " option", begun }
  | _, _, _ => { name := letter, value := "", begun, offset }

/-- Read the next option from arguments, where so many have been begun. -/
def nextOption (allowed : List Char) (args : List String) (begun offset : Nat) : OptionRead :=
  let current := (args[begun - 1]?.getD "").toList.drop offset
  match (if begun = 0 || offset = 0 then [] else current) with
  | c :: rest => readOption allowed args begun offset c rest
  | [] =>
    match (args[begun]?.getD "").toList with
    | ['-', '-'] => { name := "?", begun := begun + 1, isEnd := true }
    | '-' :: c :: rest => readOption allowed args (begun + 1) 1 c rest
    | _ => { name := "?", begun, isEnd := true }

/-- Read the next option from the arguments. -/
def getopts : Builtin := fun args ↦ do
  match ← operands args with
  | allowed :: target :: given =>
    let run ← get
    let args := if given.isEmpty then run.arguments else given
    let position := ((run.lookUp? "OPTIND").bind String.toNat?).getD 1
    let answer := nextOption allowed.toList args (position - 1) run.optionOffset
    if let some value := answer.value then Act.assign "OPTARG" value
    if let some problem := answer.problem then
      putError (problem ++ "\n")
      modify fun run ↦ run.unbind "OPTARG"
    Act.assign "OPTIND" (toString (answer.begun + 1))
    modify fun run ↦ { run with optionOffset := answer.offset }
    Act.assign target answer.name
    return if answer.isEnd then 1 else 0
  | _ => Act.fail "Usage: getopts optstring var [arg...]"

/-! ## Lines -/

/-- Divide the characters of a line among variables. A character that was escaped never divides.
The fields, the one that is being built, and what may still be cut off its end are reversed. -/
structure LineDivision where
  fields : List (List Char) := []
  current : List Char := []
  /-- How much of the last field is kept if nothing else follows; everything if there is none. -/
  kept : Option Nat := none
  afterBlank : Bool := false
  /-- How many fields may still end. -/
  left : Nat

namespace LineDivision

/-- Go on with a character. What may be cut off remains so if only escaped characters follow. -/
def step (separators : List Char) (division : LineDivision) (entry : Char × Bool) :
    LineDivision :=
  let (c, isEscaped) := entry
  let divides := separators.contains c
  let isBlank := divides && c ∈ [' ', '\t', '\n']
  let added := { division with current := c :: division.current }
  if isEscaped then { added with afterBlank := false }
  else if division.left = 0 then
    if isBlank then
      { added with kept := some (division.kept.getD division.current.length) }
    else if divides && division.afterBlank then { added with afterBlank := false }
    else { added with kept := none, afterBlank := false }
  else if division.afterBlank && divides then
    { division with afterBlank := isBlank }
  else if divides then
    if isBlank && division.current.isEmpty then division
    else if division.left = 1 then
      { added with left := 0, kept := some division.current.length, afterBlank := isBlank }
    else
      { division with
        fields := division.current :: division.fields
        current := []
        afterBlank := isBlank
        left := division.left - 1 }
  else { added with afterBlank := false }

/-- The fields of a whole line. -/
def finish (division : LineDivision) : List String :=
  let last := division.current.reverse.take (division.kept.getD division.current.length)
  (division.fields.reverse.map List.reverse ++ if last.isEmpty then [] else [last]).map
    String.ofList

end LineDivision

/-- The fields of a line for so many variables. -/
def divideLine (separators : List Char) (count : Nat) (line : List (Char × Bool)) : List String :=
  (line.foldl (LineDivision.step separators) { left := count }).finish

/-- Take a line off bytes: its characters, each with whether it was escaped, whether it is
complete, and how many bytes it takes. What was read of it comes reversed. -/
def takeLine (raw : Bool) : Bytes → Nat → List (Char × Bool) → List (Char × Bool) × Bool × Nat
  | [], count, taken => (taken.reverse, false, count)
  | 10 :: _, count, taken => (taken.reverse, true, count + 1)
  | 92 :: byte :: rest, count, taken =>
    if raw then takeLine raw (byte :: rest) (count + 1) (('\\', false) :: taken)
    else if byte = 10 then takeLine raw rest (count + 2) taken
    else takeLine raw rest (count + 2) ((Octets.ofByte byte, true) :: taken)
  | byte :: rest, count, taken =>
    if byte = 92 && !raw || byte = 0 then takeLine raw rest (count + 1) taken
    else takeLine raw rest (count + 1) ((Octets.ofByte byte, false) :: taken)

/-- Read a line into variables. -/
def read : Builtin := fun args ↦ do
  let (given, names) ← options "p:r" args
  if names.isEmpty then Act.fail "arg count"
  let bytes ← match ← Act.job (Job.unread 0) with
    | .ok bytes => pure bytes
    | .error _ => pure []
  let (line, isComplete, count) :=
    takeLine (given.any (·.1 = 'r')) bytes 0 []
  Act.job (Job.skip 0 count)
  let fields := divideLine (← get).separators names.length line
  (names.zipIdx).forM fun (name, index) ↦ do
    checkName name
    Act.assign name (fields[index]?.getD "")
  return if isComplete then 0 else 1

end LineShell.Script.Builtin
