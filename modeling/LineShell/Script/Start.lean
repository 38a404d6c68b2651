import LineShell.Script.Interpreter
import LineShell.Utility.Basic

/-!
# Starting a script

The interpreter as a program. Its arguments set options; then follow the text of a script, if an
option announces it, or the path of a file, and the arguments of the script. Without either, the
script is read from the standard input.

A script begins with the variables that it is given and some of its own.
-/

namespace LineShell.Script

/-! ## Arguments -/

/-- What the arguments of the interpreter ask for. -/
structure Request where
  /-- Whether the text of a script follows. -/
  hasText : Bool := false
  /-- Whether the script is read from the standard input, whatever follows. -/
  readsInput : Bool := false
  deriving DecidableEq, Repr

/-- Follow the letters of an argument, given the arguments after it. -/
def startLetters (isSet : Bool) (request : Request) :
    List Char → List String → Act (Request × List String)
  | [], after => return (request, after)
  | 'c' :: rest, after => startLetters isSet { request with hasText := true } rest after
  | 'l' :: rest, after => startLetters isSet request rest after
  | 's' :: rest, after => do
    Builtin.setOption isSet 's'
    startLetters isSet { request with readsInput := isSet } rest after
  | c :: rest, after => do
    let after ← Builtin.followLetters isSet [c] after
    startLetters isSet request rest after

/-- Follow the options in front of arguments, at most so many. -/
def startOptions : Nat → Request → List String → Act (Request × List String)
  | 0, request, args => return (request, args)
  | _, request, [] => return (request, [])
  | steps + 1, request, argument :: after => do
    match argument.toList with
    | ['-'] | ['-', '-'] => return (request, after)
    | '-' :: letters =>
      let (request, after) ← startLetters true request letters after
      startOptions steps request after
    | '+' :: letters =>
      let (request, after) ← startLetters false request letters after
      startOptions steps request after
    | _ => return (request, argument :: after)

/-! ## The beginning -/

/-- The variables that a script has of its own. -/
def ownBindings : List (String × Binding) :=
  [("IFS", " \t\n"), ("PATH", defaultSearchPath), ("PS1", "# "), ("PS2", "> "), ("PS4", "+ "),
    ("OPTIND", "1")].map fun (name, value) ↦ (name, { value := some value })

/-- The path by which a process has come to its directory: the one that it is given, if it leads
there. -/
def directoryOf (process : Process) (system : System) : String :=
  let physical := Octets.ofText process.cwd.path
  match process.lookUp? "PWD" with
  | none => physical
  | some path =>
    let place := system.tree.locate process.cwd (Octets.toText path)
    if Path.isAbsolute path && place.toOption == some process.cwd then path else physical

/-- A script at its beginning. -/
def Run.ofProcess (process : Process) (system : System) (name : String) : Run :=
  let start : Run := { process, system, name, bindings := ownBindings, number := process.number }
  let given := process.environment.filter fun entry ↦ isName entry.1
  let run := given.foldl (fun (run : Run) (name, value) ↦
    let isOwn := name ∈ ["IFS", "OPTIND"]
    let value := if isOwn then run.lookUp? name else some value
    run.bind name { value, isExported := true }) start
  let directory := directoryOf process system
  let run := run.bind "PWD" { value := some directory, isExported := true }
  let run := run.bind "PPID" { value := some (toString (process.number - 1)) }
  { run with directory }

/-- Read the file of a script. -/
def readScript (path : String) : Act String := do
  let run ← get
  match run.system.openPath run.process.cwd .read (Octets.toText path) with
  | .error error => Act.fail (openingProblem .input path error)
  | .ok _ =>
    match ← Act.job (Job.readFile path) with
    | .ok content => return Octets.ofBytes content
    | .error _ => return ""

/-- Run what the arguments of the interpreter ask for. -/
def begin (world : World) (args : List String) : Act Unit := do
  let (request, args) ← startOptions (args.length + 1) {} args
  if request.hasText then
    match args with
    | [] => Act.fail "-c requires an argument"
    | text :: rest =>
      modify fun run ↦ { run with name := rest.headD run.name, arguments := rest.tail }
      world.runText { isLast := !request.readsInput } text
  else match (if request.readsInput then [] else args) with
    | path :: rest =>
      let text ← readScript path
      modify fun run ↦ { run with name := path, arguments := rest }
      world.runText {} text
    | [] =>
      Builtin.setOption true 's'
      modify fun run ↦ { run with arguments := args }
      let bytes ← match ← Act.job (Job.readAll 0) with
        | .ok bytes => pure bytes
        | .error _ => pure []
      world.runText {} (Octets.ofBytes bytes)

/-- Interpret a script, given its name and the arguments of the interpreter. -/
def interpret (execute : Execute) (name : String) (args : List String) : Job Int :=
  fun process system ↦
    let world := world execute
    match world.conclude (begin world args) (Run.ofProcess process system name) with
    | .ok ended final => (ended, final.system)
    | .error (.killed signal) final => (-signal, final.system)
    | .error _ final => (2, final.system)

end LineShell.Script
