import LineShell.Process.Basic
import LineShell.Script.Pattern
import LineShell.Script.Source

/-!
# The state of a script

What a script knows while it runs: its variables, functions, arguments and options, what has become
of the last command, and the process that it is. The channels and files that processes share belong
to the system, which the state carries along, so that another program can be run in it.

A script leaves its path in several ways, and some of them end only a part of it. A loop ends with a
break, a function with a return; an error ends what no command has guarded; a signal ends the
process, whatever it does.
-/

namespace LineShell.Script

/-! ## Variables -/

/-- A variable of a script. It may have properties before it has a value. -/
structure Binding where
  value : Option String := none
  isExported : Bool := false
  isReadOnly : Bool := false
  deriving DecidableEq, Repr

/-! ## States -/

/-- The state of a script. -/
structure Run where
  process : Process := {}
  system : System := {}
  /-- The name that the script was called by. -/
  name : String := "sh"
  arguments : List String := []
  bindings : List (String × Binding) := []
  functions : List (String × Statement) := []
  /-- The here-documents of everything that was read. -/
  documents : List (Nat × Word) := []
  nextDocument : Nat := 0
  /-- The options that are set, by their letters. -/
  options : List Char := []
  /-- The status of the last command. -/
  status : Int := 0
  /-- The line that the last command stands in. -/
  line : Nat := 0
  /-- The line up to which the script has been read. -/
  lastLine : Nat := 0
  /-- The command that messages are about, if they name one. -/
  speaker : Option String := none
  /-- How many loops are running. -/
  loops : Nat := 0
  /-- The variables that a function has made its own, as they were before. There is no list outside
  of functions. -/
  locals : Option (List (String × Option Binding)) := none
  /-- What is done about signals, by their numbers. The number zero stands for the end. -/
  traps : List (Nat × String) := []
  /-- What is done about signals outside, in a subshell. Signals go there. -/
  outerTraps : Option (List (Nat × String)) := none
  /-- The signals that have come and are still to be handled, the last one first. -/
  pending : List Nat := []
  /-- The statuses of the programs in the background, by process, the last one first. -/
  background : List (Nat × Int) := []
  /-- What the last command that was substituted has come to. -/
  substituted : Int := 0
  /-- How far options have been read within an argument that holds several. -/
  optionOffset : Nat := 0
  /-- The directory that the script is in, as it came there. -/
  directory : String := "/"
  /-- The permissions that new files do not get. -/
  mask : Nat := 18
  aliases : List (String × String) := []
  /-- The programs that have been looked for, by their names. -/
  known : List (String × String) := []
  /-- How many functions are running. -/
  calls : Nat := 0
  /-- What the last command had come to when a signal was handled. -/
  handled : Option Int := none
  /-- The number of the process. -/
  number : Nat := 4242

/-- Why a script leaves its path. -/
inductive Stop where
  /-- It ends with a status. -/
  | exit (status : Int)
  /-- Another program has taken its place and ended with a status. -/
  | replaced (status : Int)
  /-- An error has been reported. It ends with a status unless the command that failed is guarded. -/
  | failed (status : Int)
  /-- A signal ends the script and everything that it is part of. -/
  | killed (signal : Nat)
  /-- So many loops end. -/
  | endLoops (loops : Nat)
  /-- So many loops but one end, and that one goes on. -/
  | nextRound (loops : Nat)
  /-- A function or a file that is read ends. -/
  | endFunction (status : Int)
  /-- Commands contain each other too deeply. -/
  | exhausted
  deriving DecidableEq, Repr

/-- A part of a script that runs. -/
abbrev Act := EStateM Stop Run

namespace Run

/-- Whether an option is set. -/
def has (run : Run) (option : Char) : Bool :=
  run.options.contains option

/-- A variable. -/
def binding? (run : Run) (name : String) : Option Binding :=
  (run.bindings.find? fun entry ↦ entry.1 = name).map Prod.snd

/-- The value of a variable. -/
def lookUp? (run : Run) (name : String) : Option String :=
  (run.binding? name).bind Binding.value

/-- Change a variable. A new one stands behind the others. -/
def bind (run : Run) (name : String) (binding : Binding) : Run :=
  if (run.binding? name).isSome then
    { run with
      bindings := run.bindings.map fun entry ↦ if entry.1 = name then (name, binding) else entry }
  else { run with bindings := run.bindings ++ [(name, binding)] }

/-- Forget a variable. -/
def unbind (run : Run) (name : String) : Run :=
  { run with bindings := run.bindings.filter fun entry ↦ entry.1 ≠ name }

/-- Give a variable a value. Some values decide how programs or options are looked for. -/
def assign (run : Run) (name value : String) : Run :=
  let binding := (run.binding? name).getD {}
  let bound := run.bind name { binding with
    value := some value
    isExported := binding.isExported || run.has 'a' }
  match name with
  | "PATH" => { bound with known := [] }
  | "OPTIND" => { bound with optionOffset := 0 }
  | _ => bound

/-- The characters that divide fields. -/
def separators (run : Run) : List Char :=
  match run.lookUp? "IFS" with
  | some text => text.toList
  | none => [' ', '\t', '\n']

/-- The value of a parameter that is no list. -/
def parameter? (run : Run) (name : String) : Option String :=
  match name with
  | "#" => some (toString run.arguments.length)
  | "?" => some (toString run.status)
  | "$" => some (toString run.number)
  | "-" => some (String.ofList run.options)
  | "!" => run.background.head?.map fun entry ↦ toString entry.1
  | name =>
    match name.toNat? with
    | some 0 => some run.name
    | some position => run.arguments[position - 1]?
    | none => run.lookUp? name

/-! ## The environment of programs -/

/-- The bucket of a name. Variables are handed on bucket by bucket. -/
def bucket (name : String) : Nat :=
  let codes := name.toList.map Char.toNat
  (16 * codes.headD 0 + codes.foldl (· + ·) 0) % 39

/-- The variables that programs are given. -/
def exported (run : Run) : List (String × String) :=
  let given := run.bindings.filterMap fun (name, binding) ↦
    if binding.isExported then binding.value.map (name, ·) else none
  given.mergeSort fun a b ↦ bucket a.1 ≤ bucket b.1

end Run

namespace Act

/-! ## Jobs -/

/-- Do a job as the process of the script. -/
def job {α : Type} (job : Job α) : Act α := do
  let run ← get
  let (value, system) := job run.process run.system
  set { run with system }
  return value

/-- Do something and put a part of the state back afterwards, however it ends. -/
def ensuring {α : Type} (act : Act α) (after : Act Unit) : Act α := do
  try
    let value ← act
    after
    return value
  catch stop =>
    after
    throw stop

/-- Do something as a process of its own, which shares nothing but the system. What is done about
signals is forgotten there, unless they are ignored. -/
def apart {α : Type} (act : Act α) : Act α := do
  let run ← get
  modify fun run ↦ { run with
    traps := run.traps.filter fun entry ↦ entry.2 = ""
    outerTraps := run.outerTraps.getD run.traps }
  ensuring act (modify fun after ↦ { run with system := after.system, pending := after.pending })

/-! ## Messages -/

/-- How a message begins. -/
def heading (run : Run) : String :=
  let speaker := match run.speaker with
    | some speaker => speaker ++ ": "
    | none => ""
  run.name ++ ": " ++ toString run.line ++ ": " ++ speaker

/-- Tell the user what is wrong. -/
def complain (message : String) : Act Unit := do
  let run ← get
  job (Job.complain (heading run ++ message ++ "\n"))

/-- Tell the user what is wrong, and stop. -/
def fail {α : Type} (message : String) (status : Int := 2) : Act α := do
  complain message
  throw (.failed status)

/-! ## Variables -/

/-- Give a variable a value, unless it is read only. -/
def assign (name value : String) : Act Unit := do
  if ((← get).binding? name).any Binding.isReadOnly then fail (name ++ ": is read only")
  modify fun run ↦ run.assign name value

/-- Make a variable one of the function's own. Outside of functions nothing changes. -/
def makeLocal (name : String) : Act Unit :=
  modify fun run ↦
    match run.locals with
    | none => run
    | some locals =>
      if locals.any fun entry ↦ entry.1 = name then run
      else { run with locals := some ((name, run.binding? name) :: locals) }

/-- Do something with its own list of variables, which are put back afterwards. -/
def withLocals {α : Type} (act : Act α) : Act α := do
  let outer := (← get).locals
  modify fun run ↦ { run with locals := some [] }
  ensuring act do
    modify fun run ↦
      let restored := (run.locals.getD []).foldl (fun (run : Run) (name, before) ↦
        match before with
        | some binding => run.bind name binding
        | none => run.unbind name) run
      { restored with locals := outer }

end Act

end LineShell.Script
