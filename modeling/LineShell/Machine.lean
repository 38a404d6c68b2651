import LineShell.FileTree.Setup
import LineShell.Launch
import LineShell.Process.Interpreter
import LineShell.Process.Search
import LineShell.Script.Start
import LineShell.Settings
import LineShell.Utility.Table

/-!
# The machine

A host on which programs run: the utilities and the interpreter of scripts. Running is a recursion
on the number of programs that may have started each other.

The launcher of a machine is what a shell starts programs with: it runs the program in the directory
that is asked for, with nothing to read, hands out the streams that are to be captured, and adds the
others to what child processes have written.

A shell takes any launcher, and what is proved of shells does not depend on what these programs do.
-/

namespace LineShell.Machine

/-! ## Running programs -/

/-- Run a program of the machine with its arguments, the first of which is its name. -/
def runProgram (execute : Execute) (program : String) (argv : List String) : Job Int :=
  let name := argv.headD program
  if program = "sh" then Script.interpret execute name argv.tail
  else match Utility.find? execute program with
    | some utility => utility name argv.tail
    | none => return 0

/-- How many programs may have started each other. -/
def maxProcesses : Nat := 200

/-- Run the program at a path, where so many programs may still start each other. -/
def executeWithin : Nat → Execute
  | 0, _, _ => return .error .notExecutable
  | levels + 1, path, argv => do
    let process ← read
    match Program.find (← get).tree process.cwd Program.maxInterpreters path argv with
    | .error error => return .error error
    | .ok (program, argv) =>
      let inner : Process := { process with number := process.number + 1 }
      let ended ← ReaderT.adapt (fun _ ↦ inner) (runProgram (executeWithin levels) program argv)
      return .ok ended

/-- Run the program at a path. -/
def execute : Execute :=
  executeWithin maxProcesses

/-! ## Launching -/

/-- Run a program with nothing to read: what it wrote to its two output streams, how it ended, and
the tree afterwards. -/
def runAlone (host : Host) (environment : Environment) (cwd : Place) (launch : Launch) :
    Except FileError (Bytes × Bytes × Int × FileTree) :=
  let system : System :=
    { tree := host.tree, channels := #[.device .null, .pipe [] [], .pipe [] []] }
  let process : Process :=
    { cwd
      environment := environment.map fun (name, value) ↦ (Octets.ofText name, Octets.ofText value)
      descriptors := [(0, 0), (1, 1), (2, 2)] }
  let paths := programPaths (process.lookUp? "PATH") (Octets.ofText launch.path)
  let (outcome, system) :=
    executeFirst execute (launch.argv.map Octets.ofText) none .noEntry paths process system
  outcome.map fun ended ↦ (system.contents 1, system.contents 2, ended, system.tree)

/-- Hand a stream out if it is captured. -/
def captured (stdio : Redirection.Stdio) (stream : Stream) (bytes : Bytes) : Option Bytes :=
  if stdio.captures stream then some bytes else none

/-- The launcher of a machine with an environment. -/
def launcher (environment : Environment) : Launcher := fun host launch ↦
  if (launch.path :: launch.cwd :: launch.argv).any Path.hasNul then (.error .hasNul, host)
  else
    let outcome := do
      runAlone host environment (← host.tree.workingPlace host.cwd launch.cwd) launch
    match outcome with
    | .error error => (.error (.notStarted (.worded error.reason)), host)
    | .ok (written, complained, ended, tree) =>
      let stdout := captured launch.stdio .stdout written
      let stderr := captured launch.stdio .stderr complained
      let host := { host with
        tree
        childStdout := if stdout.isSome then host.childStdout else host.childStdout ++ written
        childStderr := if stderr.isSome then host.childStderr else host.childStderr ++ complained }
      (.ok { exitCode := ended, stdout, stderr }, host)

/-! ## A standard machine -/

/-- The directories of a standard machine. -/
def directories : List Place :=
  [["boot"], ["dev"], ["etc"], ["home"], ["media"], ["mnt"], ["opt"], ["proc"], ["root"], ["run"],
    ["srv"], ["sys"], ["tmp"], ["usr"], ["var"], ["usr", "bin"], ["usr", "include"],
    ["usr", "lib"], ["usr", "lib64"], ["usr", "local"], ["usr", "local", "bin"],
    ["usr", "local", "sbin"], ["usr", "sbin"], ["usr", "share"], ["var", "log"], ["var", "tmp"]]

/-- The links of a standard machine. -/
def links : List (Place × String) :=
  [(["bin"], "usr/bin"), (["lib"], "usr/lib"), (["lib64"], "usr/lib64"), (["sbin"], "usr/sbin"),
    (["usr", "bin", "sh"], "dash")]

/-- The programs of a standard machine, by the names of their files. -/
def programs : List (String × String) :=
  ("dash", "sh") :: Utility.names.map fun name ↦ (name, name)

/-- The file tree of a standard machine. -/
def standardTree : FileTree :=
  ⟨(directories.map fun place ↦ (place, .directory))
    ++ (links.map fun (place, target) ↦ (place, .link target))
    ++ (programs.map fun (name, program) ↦ (["usr", "bin", name], .program program))
    ++ [(["dev", "null"], .device .null), (["dev", "full"], .device .full),
      (["etc", "passwd"], .file [] false)]⟩

end LineShell.Machine
