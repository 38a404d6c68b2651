import LineShell.Script.Lookup
import LineShell.Script.Streams

/-!
# What commands run in

A command may run what is no part of it: a function, a text that it has put together, the commands
whose output it takes, another program. How these are run is given from outside, so that a command
itself is run by recursion on what it is made of.

Some commands run apart from the script, as a process of their own. Whatever stops such a process,
the script learns only its status, or the signal that has ended it.
-/

namespace LineShell.Script

/-- How a command is run. -/
structure Mode where
  /-- Whether its failure decides something, and is no error. -/
  tested : Bool := false
  /-- Whether the script ends after it, so that a program can take the place of the script. -/
  isLast : Bool := false
  deriving DecidableEq, Repr

/-- How commands run what is no part of them. -/
structure World where
  execute : Execute
  evaluate : Mode → Statement → Act Unit

namespace Act

/-- Set the status. -/
def setStatus (status : Int) : Act Unit :=
  modify fun run ↦ { run with status }

/-- Tell the user which signal has ended a program, and set its status. -/
def settle (ended : Int) : Act Unit := do
  if ended < 0 then
    if let some report := signalReport? ended.natAbs then Builtin.putError (report ++ "\n")
  setStatus (statusOf ended)

/-- Do something, and find out how it was stopped, if it was. -/
def outcome (act : Act Unit) : Act (Option Stop) := do
  try
    act
    return none
  catch stop => return some stop

end Act

namespace World

/-! ## Texts -/

/-- Run the lines of a source, at most so many. The answer tells whether there was a command. -/
def runLines (world : World) (mode : Mode) : Nat → Source → Act Bool
  | 0, _ => return false
  | steps + 1, source => do
    let run ← get
    let source := { source with
      documents := run.documents
      nextDocument := run.nextDocument
      aliases := run.aliases
      bound := run.aliases.foldl (fun bound entry ↦ bound + source.bound * entry.2.length)
        source.bound }
    match Reader.readLine source with
    | .error problem _ =>
      modify fun run ↦ { run with line := problem.line }
      Act.fail ("Syntax error: " ++ problem.problem.message)
    | .ok none _ => return false
    | .ok (some statement) after =>
      if run.has 'v' then
        let length := source.rest.length - after.rest.length
        Builtin.putError (String.ofList (source.rest.take length))
      modify fun run ↦ { run with
        documents := after.documents
        nextDocument := after.nextDocument
        lastLine := after.line }
      let isEnd := match after.held with
        | some .endOfFile => true
        | _ => false
      world.evaluate { mode with isLast := mode.isLast && isEnd } statement
      let isCommand := match statement with
        | .nothing => false
        | _ => true
      return (← runLines world mode steps after) || isCommand

/-- Run a text, and set the status to zero if there is no command in it. -/
def runText (world : World) (mode : Mode) (text : String) : Act Unit := do
  let source := Source.ofText (String.ofList (text.toList.filter (· != '\x00')))
  if !(← world.runLines mode (source.rest.length + 2) source) then Act.setStatus 0

/-- Run a text as a part of a line. -/
def runWithin (world : World) (mode : Mode) (text : String) : Act Unit := do
  let ⟨line, lastLine⟩ := ((← get).line, (← get).lastLine)
  Act.ensuring (world.runText mode text) (modify fun run ↦ { run with line, lastLine })

/-! ## Signals that are handled -/

/-- Do what is to be done about a signal. The status remains, and is what the script ends with if it
ends here without a status of its own. -/
def respond (world : World) (action : String) : Act Unit := do
  let run ← get
  modify fun run ↦ { run with handled := some run.status }
  world.runWithin {} action
  modify fun after ↦ { after with handled := run.handled, status := run.status }

/-- Handle the signals that have come. A subshell leaves them to the script. -/
def handlePending (world : World) : Act Unit := do
  let run ← get
  if run.outerTraps.isNone && !run.pending.isEmpty then
    modify fun run ↦ { run with pending := [] }
    run.pending.reverse.forM fun signal ↦
      match run.traps.find? (·.1 = signal) with
      | some (_, action) => world.respond action
      | none => return ()

/-! ## Processes of their own -/

/-- What a process has ended as, after what is done about its end. -/
def leave (world : World) (status : Int) : Act Int := do
  Act.setStatus status
  match (← get).traps.find? (·.1 = 0) with
  | none => return status % 256
  | some (_, action) =>
    modify fun run ↦ { run with traps := run.traps.filter (·.1 ≠ 0) }
    match ← Act.outcome (world.respond action) with
    | some (.killed signal) => throw (.killed signal)
    | some (.exit status) | some (.replaced status) | some (.failed status) => return status % 256
    | _ => return status % 256

/-- Run something to the end of its process: the status, or the negative number of the signal that
has ended it. -/
def conclude (world : World) (act : Act Unit) : Act Int := do
  match ← Act.outcome act with
  | some (.killed signal) => throw (.killed signal)
  | some (.replaced status) => return if status < 0 then status else status % 256
  | some .exhausted => return -11
  | some (.exit status) | some (.failed status) | some (.endFunction status) => world.leave status
  | none | some (.endLoops _) | some (.nextRound _) => do world.leave (← get).status

/-- Run something as a process of its own. -/
def runApart (world : World) (act : Act Unit) : Act Int :=
  Act.apart (world.conclude act)

/-- Run something apart with its descriptors led to channels. -/
def runBetween (world : World) (leads : List (Nat × Nat)) (act : Act Unit) : Act Int :=
  world.runApart do
    modify fun run ↦ { run with
      process := leads.foldl (fun process (descriptor, channel) ↦ process.lead descriptor channel)
        run.process }
    act

/-- Add a channel. -/
def addChannel (channel : Channel) : Act Nat := do
  let run ← get
  let (number, system) := run.system.addChannel channel
  set { run with system }
  return number

/-! ## Substitution -/

/-- What a list of commands writes, without the line breaks at its end. -/
def substitute (world : World) (body : Statement) : Act String := do
  let channel ← addChannel (.pipe [] [])
  let ended ← world.runBetween [(1, channel)] (world.evaluate { isLast := true } body)
  let status := (← get).status
  Act.settle ended
  let substituted := (← get).status
  let text := Octets.ofBytes ((← get).system.contents channel)
  modify fun run ↦
    { run with status, substituted, system := run.system.dropChannels channel }
  let kept := (text.toList.reverse.dropWhile (· == '\n')).reverse
  return String.ofList (kept.filter (· != '\x00'))

/-- How words are expanded. -/
def expander (world : World) : Expander where
  substitute := world.substitute

/-- The text that is written in front of a command that is shown before it runs. -/
def traceMark (world : World) : Act String := do
  let mark := ((← get).lookUp? "PS4").getD ""
  match Reader.readIn (Reader.level Reader.maxLevels).list .document (Source.ofText mark) with
  | .ok word _ => textOfWord world.expander word
  | .error _ _ => return mark

end World

end LineShell.Script
