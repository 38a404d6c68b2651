import LineShell.Text.Integer
import LineShell.Text.Quoted

/-!
# The command line of the program

What the program is asked to do by its arguments: to execute a text, or to talk to a user. Two
settings can be given with flags, before or after the word that says which of the two it is; the
flag given last counts.

The arguments are read in two passes. The first, `items`, looks at each argument by itself: a flag
may be shortened as long as only one flag is meant, its value follows an equals sign or is the next
argument, everything after a first `--` is an operand, and so is an argument with a dash in front
that is a negative number or holds a space. The second pass, one for each page of the usage, gives
the items their meaning. Mistakes of the first pass come before all others.
-/

namespace LineShell

/-! ## Usage -/

/-- A page of the usage: the general one, or that of a subcommand. -/
inductive Page where
  | general
  | exec
  | shell
  deriving DecidableEq, Repr

/-- A flag that has a value. -/
inductive Setting where
  | logLevel
  | prompt
  deriving DecidableEq, Repr

/-- The name of a setting's flag. -/
def Setting.name : Setting → String
  | .logLevel => "--log-level"
  | .prompt => "--prompt"

namespace Page

/-- What the program is called on a page. -/
def program : Page → String
  | .general => "minish"
  | .exec => "minish exec"
  | .shell => "minish shell"

/-- The operands that a page names. -/
def operands : Page → String
  | .general => " \x7bexec,shell\x7d ..."
  | .exec => " command"
  | .shell => ""

/-- The line that sums a page up. -/
def usage (page : Page) : String :=
  "usage: " ++ page.program ++ " [-h] [--log-level LOG_LEVEL] [--prompt PROMPT]" ++ page.operands
    ++ "\n"

/-- What a page says about its operands. -/
def operandHelp : Page → List String
  | .general =>
    ["",
      "positional arguments:",
      "  \x7bexec,shell\x7d",
      "    exec                Run a single command line",
      "    shell               Start an interactive shell"]
  | .exec =>
    ["",
      "positional arguments:",
      "  command               Command line to execute"]
  | .shell => []

/-- What every page says about its flags. -/
def flagHelp : List String :=
  ["",
    "options:",
    "  -h, --help            show this help message and exit",
    "  --log-level LOG_LEVEL",
    "                        Log level for diagnostics on stderr (default:",
    "                        $MINISH_LOG_LEVEL or WARNING).",
    "  --prompt PROMPT       Prompt shown before each line (default: $MINISH_PROMPT",
    "                        or '$ ')."]

/-- The text of a page. -/
def help (page : Page) : String :=
  page.usage ++ String.join ((page.operandHelp ++ flagHelp).map (· ++ "\n"))

end Page

/-! ## Mistakes -/

/-- How arguments can be wrong. -/
inductive Misuse where
  /-- A shortened flag could be any of them. -/
  | ambiguous (argument : String)
  | missingValue (page : Page) (setting : Setting)
  /-- The flag for help was given a value. -/
  | ignoredValue (page : Page) (value : String)
  | unknownSubcommand (name : String)
  | missingCommand
  /-- Arguments are left that mean nothing. -/
  | unrecognized (arguments : List String)
  deriving DecidableEq, Repr

namespace Misuse

/-- The page that the user is shown. -/
def page : Misuse → Page
  | .missingValue page _ | .ignoredValue page _ => page
  | .missingCommand => .exec
  | _ => .general

/-- What the user is told. -/
def message : Misuse → String
  | .ambiguous argument =>
    "ambiguous option: " ++ argument ++ " could match --help, --log-level, --prompt"
  | .missingValue _ setting => "argument " ++ setting.name ++ ": expected one argument"
  | .ignoredValue _ value =>
    "argument -h/--help: ignored explicit argument " ++ Text.quoted value
  | .unknownSubcommand name =>
    "argument command_name: invalid choice: " ++ Text.quoted name
      ++ " (choose from 'exec', 'shell')"
  | .missingCommand => "the following arguments are required: command"
  | .unrecognized arguments => "unrecognized arguments: " ++ " ".intercalate arguments

/-- Everything that a mistake shows: the usage and the message. -/
def report (misuse : Misuse) : String :=
  misuse.page.usage ++ misuse.page.program ++ ": error: " ++ misuse.message ++ "\n"

end Misuse

/-- Why arguments lead to no invocation. -/
inductive Rejection where
  /-- The user asked for help. -/
  | help (page : Page)
  | misuse (misuse : Misuse)
  deriving DecidableEq, Repr

namespace Invocation

/-! ## Arguments by themselves -/

/-- What an argument looks like. -/
inductive Role where
  | operand
  | separator
  /-- The flag for help, and a value written together with it. -/
  | help (value : Option String)
  /-- The flag of a setting, and a value written together with it. -/
  | setting (setting : Setting) (value : Option String)
  /-- Something that could be a flag but is none. -/
  | unknown
  deriving DecidableEq, Repr

/-- The name of a flag and the value after its first equals sign. -/
def splitValue (argument : List Char) : List Char × Option String :=
  match argument.dropWhile (· != '=') with
  | [] => (argument, none)
  | _ :: value => (argument.takeWhile (· != '='), some (String.ofList value))

/-- What a value that is written together with its flag sets. A lone separator is dropped, which
leaves a list without elements in the place of a value. -/
def writtenValue : Setting → String → String
  | .logLevel, "--" => ""
  | .prompt, "--" => "[]"
  | _, value => value

/-- The role of a setting's flag. -/
def settingRole (setting : Setting) (value : Option String) : Role :=
  .setting setting (value.map (writtenValue setting))

/-- The long flags, each with the role it gives to a value. -/
def longFlags : List (String × (Option String → Role)) :=
  [("--help", .help), (Setting.logLevel.name, settingRole .logLevel),
    (Setting.prompt.name, settingRole .prompt)]

/-- Whether the characters after a dash are those of a negative number, up to a line feed at the
end. -/
def isNumber (cs : List Char) : Bool :=
  let body := if cs.getLast? == some '\n' then cs.dropLast else cs
  match body.dropWhile Text.isDigit with
  | [] => !body.isEmpty
  | '.' :: fraction => !fraction.isEmpty && fraction.all Text.isDigit
  | _ => false

/-- The role of an argument with a dash in front that is no flag. -/
def roleWithoutFlag (argument : List Char) : Role :=
  if isNumber argument.tail || argument.contains ' ' then .operand else .unknown

/-- The value of the short flag for help, from the characters after its letter. An equals sign
right there is no part of the value. More letters of the same flag ask for help again, and a value
that consists of nothing else is none. -/
def shortHelpValue (cs : List Char) : Option String :=
  let body := if cs.head? == some '=' then cs.tail else cs
  match cs, body.dropWhile (· == 'h') with
  | [], _ => none
  | _, [] => if body.isEmpty then some "" else none
  | _, value => some (String.ofList value)

/-- The role of an argument. -/
def role (argument : String) : Except Misuse Role :=
  match argument.toList with
  | '-' :: '-' :: rest =>
    let (name, value) := splitValue ('-' :: '-' :: rest)
    match longFlags.filter fun flag ↦ name.isPrefixOf flag.1.toList with
    | [] => .ok (roleWithoutFlag argument.toList)
    | [flag] => .ok (flag.2 value)
    | _ => .error (.ambiguous argument)
  | ['-'] => .ok .operand
  | '-' :: 'h' :: rest => .ok (.help (shortHelpValue rest))
  | '-' :: _ => .ok (roleWithoutFlag argument.toList)
  | _ => .ok .operand

/-- The arguments with their roles. After the first separator all are operands. -/
def roles : List String → Except Misuse (List (String × Role))
  | [] => .ok []
  | "--" :: rest => .ok (("--", .separator) :: rest.map fun argument ↦ (argument, .operand))
  | argument :: rest => do
    let first ← role argument
    return (argument, first) :: (← roles rest)

/-! ## Items -/

/-- What arguments say, flags together with their values. -/
inductive Item where
  | operand (text : String)
  | separator
  | help (value : Option String)
  | set (setting : Setting) (value : String)
  /-- The flag of a setting without a value. -/
  | unset (setting : Setting)
  | unknown (argument : String)
  deriving DecidableEq, Repr

/-- Put flags together with the values after them. -/
def pair : List (String × Role) → List Item
  | [] => []
  | (_, .setting setting (some value)) :: rest => .set setting value :: pair rest
  | (_, .setting setting none) :: (value, .operand) :: rest => .set setting value :: pair rest
  | (_, .setting setting none) :: rest => .unset setting :: pair rest
  | (_, .help value) :: rest => .help value :: pair rest
  | (argument, .operand) :: rest => .operand argument :: pair rest
  | (argument, .unknown) :: rest => .unknown argument :: pair rest
  | (_, .separator) :: rest => .separator :: pair rest

/-- What arguments say. -/
def items (arguments : List String) : Except Misuse (List Item) :=
  (roles arguments).map pair

/-! ## Pages -/

/-- What flags set. -/
structure Flags where
  logLevel : Option String := none
  prompt : Option String := none
  deriving DecidableEq, Repr

/-- Set a setting, whatever it was before. -/
def Flags.set (flags : Flags) (value : String) : Setting → Flags
  | .logLevel => { flags with logLevel := some value }
  | .prompt => { flags with prompt := some value }

/-- What has been read: the settings, and what means nothing. -/
structure Reading where
  flags : Flags := {}
  extras : List String := []
  deriving DecidableEq, Repr

/-- Take in one item on a page where no operand is expected. -/
def Reading.take (page : Page) (reading : Reading) : Item → Except Rejection Reading
  | .operand text => .ok { reading with extras := reading.extras ++ [text] }
  | .separator => .ok { reading with extras := reading.extras ++ ["--"] }
  | .unknown argument => .ok { reading with extras := reading.extras ++ [argument] }
  | .help none => .error (.help page)
  | .help (some value) => .error (.misuse (.ignoredValue page value))
  | .unset setting => .error (.misuse (.missingValue page setting))
  | .set setting value => .ok { reading with flags := reading.flags.set value setting }

/-- Take in items up to the first operand or separator. -/
def Reading.takeFlags (page : Page) (reading : Reading) :
    List Item → Except Rejection (Reading × List Item)
  | .operand text :: rest => .ok (reading, .operand text :: rest)
  | .separator :: rest => .ok (reading, .separator :: rest)
  | [] => .ok (reading, [])
  | item :: rest => do
    let reading ← reading.take page item
    reading.takeFlags page rest

/-- Take in all items on a page where no operand is expected. -/
def Reading.takeAll (page : Page) (reading : Reading) (items : List Item) :
    Except Rejection Reading :=
  items.foldlM (Reading.take page) reading

/-- The one operand that items begin with. A separator around it is dropped. -/
def leadingOperand? : List Item → Option (String × List Item)
  | .separator :: .operand text :: rest => some (text, rest)
  | .operand text :: .separator :: rest => some (text, rest)
  | .operand text :: rest => some (text, rest)
  | _ => none

/-- What the program is asked to do. -/
inductive Task where
  /-- Execute a text. -/
  | exec (text : String)
  /-- Read lines and execute each. -/
  | converse
  deriving DecidableEq, Repr

/-- Read the items after the word that asks for a text to be executed. -/
def readExec (reading : Reading) (items : List Item) : Except Rejection (Task × Reading) := do
  let (reading, rest) ← reading.takeFlags .exec items
  match leadingOperand? rest with
  | none => throw (.misuse .missingCommand)
  | some (text, rest) => return (.exec text, ← reading.takeAll .exec rest)

/-- Read all items. -/
def readGeneral (items : List Item) : Except Rejection (Task × Reading) := do
  let (reading, rest) ← ({} : Reading).takeFlags .general items
  match rest with
  | .operand "exec" :: rest => readExec reading rest
  | .operand "shell" :: rest => return (.converse, ← reading.takeAll .shell rest)
  | .operand name :: _ => throw (.misuse (.unknownSubcommand name))
  | .separator :: .operand _ :: _ => throw (.misuse (.unknownSubcommand "--"))
  | rest => return (.converse, ← reading.takeAll .general rest)

end Invocation

/-- What the program is asked to do, and the settings that flags give. -/
structure Invocation where
  task : Invocation.Task
  flags : Invocation.Flags := {}
  deriving DecidableEq, Repr

/-- The invocation that arguments stand for. -/
def Invocation.ofArguments (arguments : List String) : Except Rejection Invocation := do
  let items ← (Invocation.items arguments).mapError .misuse
  let (task, reading) ← Invocation.readGeneral items
  if reading.extras.isEmpty then return { task, flags := reading.flags }
  else throw (.misuse (.unrecognized reading.extras))

end LineShell
