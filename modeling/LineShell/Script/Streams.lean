import LineShell.Script.Expansion

/-!
# Following redirections

Before a command runs, its descriptors are led to where its redirections say. The words that name
files and descriptors are expanded first; then the redirections are followed in order up to the
first that is not possible, as a here-document is not if its text cannot be expanded. Afterwards the
descriptors lead again where they led before.

A redirection that is not possible is reported. Whether it stops the script depends on the command.
-/

namespace LineShell.Script

/-- A redirection whose word has been expanded. -/
inductive Route where
  | file (descriptor : Nat) (opening : Opening) (path : String)
  /-- The descriptor leads where another one leads. -/
  | duplicate (descriptor source : Nat)
  | close (descriptor : Nat)
  | document (descriptor : Nat) (word : Word)

/-- The route that a redirection asks for. -/
def routeOf (how : Expander) : Redirect → Act Route
  | .file descriptor opening target => do
    return .file descriptor opening (← textOfWord how target)
  | .duplicate descriptor target => do
    let text ← textOfWord how target
    match text.toList with
    | ['-'] => return .close descriptor
    | [c] =>
      if c.isDigit then return .duplicate descriptor (c.toNat - '0'.toNat)
      else badDescriptor
    | _ => badDescriptor
  | .document descriptor index => do
    let word := ((← get).documents.find? fun entry ↦ entry.1 = index).map Prod.snd
    return .document descriptor (word.getD [])
where
  /-- Stop because a word names no descriptor. -/
  badDescriptor {α : Type} : Act α := do
    modify fun run ↦ { run with line := run.lastLine }
    Act.fail ("Syntax error: " ++ Problem.badDescriptor.message)

/-- What a file is opened for. -/
def Opening.access : Opening → System.Access
  | .input => .read
  | .truncate | .overwrite => .create
  | .append => .append
  | .update => .update

/-- What the user is told about a file that cannot be opened. -/
def openingProblem (opening : Opening) (path : String) (error : FileError) : String :=
  let isMissing := error = .noEntry || error = .notDirectory
  if opening = .input then
    "cannot open " ++ path ++ ": " ++ (if isMissing then "No such file" else error.reason)
  else
    "cannot create " ++ path ++ ": "
      ++ (if isMissing then "Directory nonexistent" else error.reason)

/-- Follow a route. The answer tells whether that was possible. -/
def follow (how : Expander) : Route → Act Bool
  | .file descriptor opening path => do
    let run ← get
    let node? ← Act.job (Job.stat? path)
    let isProtected := opening = .truncate && run.has 'C' && node?.any Node.isFile
    let opened := if isProtected then .error .alreadyThere
      else run.process.openPath run.system opening.access path
    match opened with
    | .ok (channel, system) =>
      set { run with system, process := run.process.lead descriptor channel }
      return true
    | .error error =>
      Act.complain (openingProblem opening path error)
      return false
  | .duplicate descriptor source => do
    let run ← get
    match run.process.channel? source with
    | some channel =>
      set { run with process := run.process.lead descriptor channel }
      return true
    | none =>
      Act.complain (toString source ++ ": " ++ FileError.badDescriptor.reason)
      return false
  | .close descriptor => do
    modify fun run ↦ { run with process := run.process.close descriptor }
    return true
  | .document descriptor word => do
    try
      let content ← textOfWord how word
      modify fun run ↦
        let (channel, system) := run.system.addChannel (.pipe (Octets.toBytes content) [])
        { run with system, process := run.process.lead descriptor channel }
      return true
    catch
      | .failed _ => return false
      | stop => throw stop

/-- Follow routes up to the first that is not possible. -/
def followAll (how : Expander) : List Route → Act Bool
  | [] => return true
  | route :: rest => do
    if ← follow how route then followAll how rest else return false

/-- Follow redirections. The answer tells whether that was possible. -/
def redirect (how : Expander) (redirects : List Redirect) : Act Bool := do
  followAll how (← redirects.mapM (routeOf how))

/-- Do something with redirections, or something else if they are not possible. -/
def withRedirects {α : Type} (how : Expander) (redirects : List Redirect) (body : Act α)
    (otherwise : Act α) : Act α := do
  let before := (← get).process.descriptors
  Act.ensuring
    (do if ← redirect how redirects then body else otherwise)
    (modify fun run ↦ { run with process := { run.process with descriptors := before } })

end LineShell.Script
