import LineShell.Script.Builtin

/-!
# Signals

Commands that send signals, that say what is done when one comes, and that wait for programs in the
background. A script can only reach itself: a signal ends it unless something else is to be done. A
signal that is to be handled waits until the command that runs has ended.

Programs in the background have ended before anything can wait for them or send them a signal.
-/

namespace LineShell.Script

/-! ## Names -/

/-- The names of the signals, by number. -/
def signalNames : List (Nat × String) :=
  [(0, "EXIT"), (1, "HUP"), (2, "INT"), (3, "QUIT"), (4, "ILL"), (5, "TRAP"), (6, "ABRT"),
    (7, "BUS"), (8, "FPE"), (9, "KILL"), (10, "USR1"), (11, "SEGV"), (12, "USR2"), (13, "PIPE"),
    (14, "ALRM"), (15, "TERM"), (16, "STKFLT"), (17, "CHLD"), (18, "CONT"), (19, "STOP"),
    (20, "TSTP"), (21, "TTIN"), (22, "TTOU"), (23, "URG"), (24, "XCPU"), (25, "XFSZ"),
    (26, "VTALRM"), (27, "PROF"), (28, "WINCH"), (29, "IO"), (30, "PWR"), (31, "SYS"),
    (32, "32"), (33, "33"), (34, "RTMIN")]
  ++ (List.range 15).map (fun number ↦ (35 + number, "RTMIN+" ++ toString (number + 1)))
  ++ (List.range 14).map (fun number ↦ (50 + number, "RTMAX-" ++ toString (14 - number)))
  ++ [(64, "RTMAX")]

/-- The name of a signal. -/
def signalName? (number : Nat) : Option String :=
  (signalNames.find? fun entry ↦ entry.1 = number).map Prod.snd

/-- The signal that a text names, by number or by name, from a least number on. -/
def signal? (least : Nat) (text : String) : Option Nat :=
  match Utility.natural? text with
  | some number => if number < 65 then some number else none
  | none =>
    (signalNames.find? fun entry ↦ least ≤ entry.1 && entry.2 = text.toUpper).map Prod.fst

/-- What the user is told when a signal has ended a program. -/
def signalReport? : Nat → Option String
  | 1 => some "Hangup"
  | 3 => some "Quit"
  | 4 => some "Illegal instruction"
  | 5 => some "Trace/breakpoint trap"
  | 6 => some "Aborted"
  | 7 => some "Bus error"
  | 8 => some "Floating point exception"
  | 9 => some "Killed"
  | 10 => some "User defined signal 1"
  | 11 => some "Segmentation fault"
  | 12 => some "User defined signal 2"
  | 14 => some "Alarm clock"
  | 15 => some "Terminated"
  | 16 => some "Stack fault"
  | 24 => some "CPU time limit exceeded"
  | 25 => some "File size limit exceeded"
  | 26 => some "Virtual timer expired"
  | 27 => some "Profiling timer expired"
  | 29 => some "I/O possible"
  | 30 => some "Power failure"
  | 31 => some "Bad system call"
  | number =>
    if 34 ≤ number then some ("Real-time signal " ++ toString (number - 34)) else none

/-- Whether a signal that nothing is done about leaves a process as it is. -/
def isHarmless (signal : Nat) : Bool :=
  signal ∈ [0, 17, 18, 19, 20, 21, 22, 23, 28]

/-- The status that stands for the end of a program: its own, or the number of the signal that ended
it, beyond all others. -/
def statusOf (ended : Int) : Int :=
  if ended < 0 then 128 - ended else ended

namespace Builtin

/-! ## Sending -/

/-- Let a signal come to the script. -/
def raise (signal : Nat) : Act Unit := do
  let run ← get
  match (run.outerTraps.getD run.traps).find? (·.1 = signal) with
  | some (_, "") => return ()
  | some _ => if signal = 9 then throw (.killed 9) else set { run with pending := signal :: run.pending }
  | none => if isHarmless signal then return () else throw (.killed signal)

/-- Send a signal to a process. -/
def sendTo (signal : Nat) (target : String) : Act Int := do
  if target.toList.head? = some '%' then Act.fail ("No such job: " ++ target)
  let run ← get
  let isGroup := target.toList.head? == some '-'
  let process ← number (if isGroup then String.ofList target.toList.tail else target)
  if process = run.number && !isGroup then
    raise signal
    return 0
  else if run.background.any (·.1 = process) then return 0
  else
    Act.complain "No such process\n"
    return 1

/-- Show the names of signals. -/
def listSignals : List String → Act Int
  | [] =>
    putLines ("0" :: (signalNames.filter (·.1 ≠ 0)).map Prod.snd)
  | text :: _ => do
    let given ← number text
    let signal := if 128 < given then given - 128 else given
    match signal, signalName? signal with
    | _ + 1, some name => putLines [name]
    | _, _ => Act.fail ("invalid signal number or exit status: " ++ text)

/-- Send signals. -/
def kill : Builtin := fun args ↦ do
  let usage : Act Int := Act.fail
    "Usage: kill [-s sigspec | -signum | -sigspec] [pid | job]... or\nkill -l [exitstatus]"
  let first := (args.headD "").toList
  if args.isEmpty then usage
  else match (if first.head? = some '-' then signal? 1 (String.ofList first.tail) else none) with
  | some signal => send usage signal args.tail
  | none =>
    let (given, targets) ← if first.head? = some '-' then options "ls:" args else pure ([], args)
    let signals ← (given.filter (·.1 = 's')).mapM fun (_, name) ↦ do
      match signal? 1 name with
      | some signal => pure signal
      | none => Act.fail ("invalid signal number or name: " ++ name)
    match given.any (·.1 = 'l'), signals.getLast? with
    | true, none => listSignals targets
    | true, some _ => usage
    | false, signal => send usage (signal.getD 15) targets
where
  /-- Send a signal to targets, of which there must be one. -/
  send (usage : Act Int) (signal : Nat) (targets : List String) : Act Int := do
    if targets.isEmpty then usage
    else
      let statuses ← targets.mapM (sendTo signal)
      return if statuses.all (· == 0) then 0 else 1

/-! ## Handling -/

/-- Say what is done about a signal: what a text says, nothing, or what is always done. -/
def handle (action : Option String) (name : String) : Act Bool := do
  match signal? 0 name with
  | none =>
    putError ("trap: " ++ name ++ ": bad trap\n")
    return false
  | some signal =>
    modify fun run ↦
      let others := run.traps.filter (·.1 ≠ signal)
      { run with traps := others ++ (action.map (signal, ·)).toList }
    return true

/-- Say what is done about signals up to the first that there is not. -/
def handleAll (action : Option String) : List String → Act Int
  | [] => return 0
  | name :: rest => do
    if ← handle action name then handleAll action rest else return 1

/-- Say what is done about signals, or show it. -/
def trap : Builtin := fun args ↦ do
  match ← operands args with
  | [] =>
    let sorted := (← get).traps.mergeSort fun a b ↦ a.1 ≤ b.1
    putLines (sorted.map fun (signal, action) ↦
      "trap -- " ++ quoted action ++ " " ++ (signalName? signal).getD "")
  | [name] => handleAll none [name]
  | action :: names =>
    if ((Utility.natural? action).bind fun _ ↦ signal? 0 action).isSome then handleAll none (action :: names)
    else handleAll (if action = "-" then none else some action) names

/-! ## Waiting -/

/-- Wait for programs in the background; the status is that of the last one. -/
def wait : Builtin := fun args ↦ do
  let targets ← operands args
  let statuses ← targets.mapM fun target ↦ do
    if target.toList.head? = some '%' then Act.fail ("No such job: " ++ target)
    let process ← number target
    match (← get).background.find? (·.1 = process) with
    | none => return (127 : Int)
    | some (_, ended) =>
      if ended < 0 then
        if let some report := signalReport? ended.natAbs then putError (report ++ "\n")
      return statusOf ended
  return statuses.getLast?.getD 0

end Builtin

end LineShell.Script
