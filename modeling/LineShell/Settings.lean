import LineShell.Path
import LineShell.Session
import LineShell.Text.Blank
import LineShell.Text.Capital

/-!
# Settings

What a shell is told by its environment: the search path, the home directory, the prompt and the log
level. The names of the variables are matched without regard to case, and of several that match the
last one counts. The search path and the home directory may also be given under names of the
program's own, which count where the common names are missing. The only setting that can be wrong is
the log level, which must be one of seven names; case and blanks around it do not count.
-/

namespace LineShell

/-! ## Log levels -/

/-- How important a log record must be to be written. -/
inductive LogLevel where
  | trace
  | debug
  | info
  | success
  | warning
  | error
  | critical
  deriving DecidableEq, Repr

namespace LogLevel

/-- The levels, the least important one first. -/
def all : List LogLevel :=
  [.trace, .debug, .info, .success, .warning, .error, .critical]

/-- The name of a level. -/
def name : LogLevel → String
  | .trace => "TRACE"
  | .debug => "DEBUG"
  | .info => "INFO"
  | .success => "SUCCESS"
  | .warning => "WARNING"
  | .error => "ERROR"
  | .critical => "CRITICAL"

/-- The level that a text names. -/
def ofText? (text : String) : Option LogLevel :=
  let written := Text.capitals (Text.trim text.toList)
  all.find? fun level ↦ level.name.toList = written

theorem mem_all (level : LogLevel) : level ∈ all := by
  cases level <;> decide

end LogLevel

/-- Why a shell cannot be set up. -/
inductive ConfigurationError where
  /-- No level has the name that was given. -/
  | unknownLevel (text : String)
  /-- No level has the name that a variable of the environment gives. -/
  | unknownLevelSetting (text : String)
  deriving DecidableEq, Repr

/-- What the user is told. -/
def ConfigurationError.message : ConfigurationError → String
  | .unknownLevel text => "Unknown log level '" ++ text ++ "'"
  | .unknownLevelSetting text => "Value error, Unknown log level '" ++ text ++ "'"

/-- The level that a text names. -/
def LogLevel.read (text : String) : Except ConfigurationError LogLevel :=
  match LogLevel.ofText? text with
  | some level => .ok level
  | none => .error (.unknownLevel text)

/-! ## Search paths -/

/-- The entries of a search path, which colons separate. An empty entry is the working directory,
but an empty path has no entry at all. -/
def splitSearchPath (path : String) : List String :=
  if path.isEmpty then []
  else (Path.split ':' path.toList).map fun entry ↦
    if entry.isEmpty then "." else String.ofList entry

/-! ## The environment -/

/-- The variables of an environment, each by its name. -/
abbrev Environment := List (String × String)

namespace Environment

/-- Set a variable. One that is set already keeps its position. -/
def assign (environment : Environment) (name value : String) : Environment :=
  if environment.any fun entry ↦ entry.1 == name then
    environment.map fun entry ↦ if entry.1 = name then (name, value) else entry
  else environment ++ [(name, value)]

/-- The environment that assignments make, one after another. -/
def ofAssignments (assignments : List (String × String)) : Environment :=
  assignments.foldl (fun environment (name, value) ↦ environment.assign name value) []

/-- The value of the last variable with a name. -/
def valueOf? (environment : Environment) (matching : String → Bool) : Option String :=
  (environment.reverse.find? fun entry ↦ matching entry.1).map Prod.snd

/-- The value of the variable with a name, in whatever case the name is written. -/
def setting? (environment : Environment) (name : String) : Option String :=
  environment.valueOf? fun other ↦ other.toLower == name.toLower

/-- The value of the variable with a common name, or else of that with the program's own name for
the same thing. -/
def commonSetting? (environment : Environment) (name : String) : Option String :=
  environment.setting? name <|> environment.setting? ("MINISH_" ++ name)

/-- The home directory that the system knows: the variable of that name in exactly this case,
without the slashes at its end, or else that of the user. -/
def systemHome (environment : Environment) (userHome : String) : String :=
  match environment.valueOf? (· == "HOME") with
  | none => userHome
  | some home =>
    let trimmed := (home.toList.reverse.dropWhile (· == '/')).reverse
    if trimmed.isEmpty then "/" else String.ofList trimmed

end Environment

/-! ## Settings -/

/-- What the environment says about a shell. -/
structure Settings where
  path : String
  home : String
  prompt : String
  logLevel : LogLevel
  /-- The home directory of a session if the setting is empty. -/
  systemHome : String
  deriving DecidableEq, Repr

namespace Settings

/-- Read the settings from an environment, given the home directory of the user. -/
def ofEnvironment (environment : Environment) (userHome : String) :
    Except ConfigurationError Settings :=
  let levelText := (environment.setting? "MINISH_LOG_LEVEL").getD LogLevel.warning.name
  match LogLevel.ofText? levelText with
  | none => .error (.unknownLevelSetting levelText)
  | some logLevel =>
    .ok {
      path := (environment.commonSetting? "PATH").getD ""
      home := (environment.commonSetting? "HOME").getD (environment.systemHome userHome)
      prompt := (environment.setting? "MINISH_PROMPT").getD "$ "
      logLevel
      systemHome := environment.systemHome userHome }

/-- The entries of the search path. -/
def searchPath (settings : Settings) : List String :=
  splitSearchPath settings.path

/-- The session that a shell with these settings starts with. An empty working directory is no
directory: the session then starts in that of the process. -/
def session (settings : Settings) (processCwd : String) (cwd : String := "")
    (followProcess : Bool := true) : Session where
  cwd := if cwd.isEmpty then processCwd else cwd
  searchPath := settings.searchPath
  home := if settings.home.isEmpty then settings.systemHome else settings.home
  followProcess

end Settings

end LineShell
