import LineShell.Program
import LineShell.Proofs.Invocation.Flags

/-!
# Settings in two environments

Environments are compared by what is left of them without the variables of one name, in whatever
case that is written (`Environment.AgreeApartFrom`). A setting that is read under another name is
the same in both. So a prompt that a flag gives makes up for all that the prompts of the
environments do (`Program.configure_of_prompt`).

The log level is different: the level of the environment is read before the one that a flag gives,
and it may be wrong. In environments that name valid levels, the settings agree in all but the level
(`Program.configureAlike_of_valid`), and in the level too if a flag gives a valid one
(`Program.configure_of_logLevel`). Where the level of the environment is wrong there are no
settings, whatever the flags say.
-/

namespace LineShell

namespace Environment

/-- Whether two environments agree on all variables but those with a name. -/
def AgreeApartFrom (name : String) (first second : Environment) : Prop :=
  first.filter (fun entry ↦ entry.1.toLower ≠ name.toLower)
    = second.filter fun entry ↦ entry.1.toLower ≠ name.toLower

/-- Environments that end in different values of one variable. -/
theorem agreeApartFrom_append (environment : Environment) (name value other : String) :
    AgreeApartFrom name (environment ++ [(name, value)]) (environment ++ [(name, other)]) := by
  simp [AgreeApartFrom, List.filter_append]

/-- Whether an environment does not name a wrong log level. -/
def HasValidLevel (environment : Environment) : Prop :=
  ∀ text, environment.setting? "MINISH_LOG_LEVEL" = some text →
    ∃ level, LogLevel.ofText? text = some level

theorem HasValidLevel.of_setting? {environment : Environment} {text : String} {level : LogLevel}
    (h : environment.setting? "MINISH_LOG_LEVEL" = some text)
    (hlevel : LogLevel.ofText? text = some level) : environment.HasValidLevel := by
  intro other hother
  rw [h] at hother
  rw [← Option.some.inj hother]
  exact ⟨level, hlevel⟩

/-- Dropping variables that do not match leaves the value as it is. -/
theorem valueOf?_filter (environment : Environment) {keep matching : String → Bool}
    (h : ∀ name, matching name = true → keep name = true) :
    valueOf? (environment.filter fun entry ↦ keep entry.1) matching
      = environment.valueOf? matching := by
  have hboth : ∀ name, (keep name && matching name) = matching name := by
    intro name
    cases hmatching : matching name with
    | false => rw [Bool.and_false]
    | true => rw [h name hmatching, Bool.and_true]
  rw [valueOf?, valueOf?, ← List.filter_reverse, List.find?_filter]
  simp only [Bool.decide_and, Bool.decide_eq_true, hboth]

namespace AgreeApartFrom

variable {name : String} {first second : Environment} (h : AgreeApartFrom name first second)
include h

theorem valueOf?_eq {matching : String → Bool}
    (hmatching : ∀ other, matching other = true → other.toLower ≠ name.toLower) :
    first.valueOf? matching = second.valueOf? matching := by
  have hkeep : ∀ other, matching other = true →
      decide (other.toLower ≠ name.toLower) = true := fun other hother ↦
    decide_eq_true (hmatching other hother)
  rw [← first.valueOf?_filter hkeep, ← second.valueOf?_filter hkeep]
  exact congrArg (valueOf? · matching) h

theorem setting?_eq {other : String} (hother : other.toLower ≠ name.toLower) :
    first.setting? other = second.setting? other :=
  h.valueOf?_eq fun _ hmatching ↦ by rwa [eq_of_beq hmatching]

theorem commonSetting?_eq {other : String} (hother : other.toLower ≠ name.toLower)
    (hother' : ("MINISH_" ++ other).toLower ≠ name.toLower) :
    first.commonSetting? other = second.commonSetting? other := by
  rw [commonSetting?, commonSetting?, h.setting?_eq hother, h.setting?_eq hother']

theorem systemHome_eq (hname : "HOME".toLower ≠ name.toLower) (userHome : String) :
    first.systemHome userHome = second.systemHome userHome := by
  have hvalue : first.valueOf? (· == "HOME") = second.valueOf? (· == "HOME") :=
    h.valueOf?_eq fun _ hmatching ↦ by rwa [eq_of_beq hmatching]
  rw [systemHome, systemHome, hvalue]

end AgreeApartFrom

/-! ## Settings -/

/-- The settings that an environment gives, with a log level. -/
def settingsAt (environment : Environment) (userHome : String) (logLevel : LogLevel) :
    Settings where
  path := (environment.commonSetting? "PATH").getD ""
  home := (environment.commonSetting? "HOME").getD (environment.systemHome userHome)
  prompt := (environment.setting? "MINISH_PROMPT").getD "$ "
  logLevel
  systemHome := environment.systemHome userHome

theorem HasValidLevel.exists_ofEnvironment {environment : Environment}
    (h : environment.HasValidLevel) (userHome : String) :
    ∃ level, Settings.ofEnvironment environment userHome
      = .ok (environment.settingsAt userHome level) := by
  have hlevel : ∃ level, LogLevel.ofText?
      ((environment.setting? "MINISH_LOG_LEVEL").getD LogLevel.warning.name) = some level := by
    cases hsetting : environment.setting? "MINISH_LOG_LEVEL" with
    | none => exact ⟨.warning, by decide⟩
    | some text => exact h text hsetting
  obtain ⟨level, hlevel⟩ := hlevel
  refine ⟨level, ?_⟩
  rw [Settings.ofEnvironment, hlevel]
  rfl

theorem exists_ofEnvironment_of_not_valid {environment : Environment}
    (h : ¬environment.HasValidLevel) (userHome : String) :
    ∃ error, Settings.ofEnvironment environment userHome = .error error := by
  cases hlevel : LogLevel.ofText?
      ((environment.setting? "MINISH_LOG_LEVEL").getD LogLevel.warning.name) with
  | none =>
    simp only [Settings.ofEnvironment, hlevel]
    exact ⟨_, rfl⟩
  | some level =>
    refine absurd (fun text htext ↦ ⟨level, ?_⟩) h
    rwa [htext] at hlevel

theorem AgreeApartFrom.settingsAt_eq {first second : Environment}
    (h : AgreeApartFrom "MINISH_LOG_LEVEL" first second) (userHome : String) (level : LogLevel) :
    first.settingsAt userHome level = second.settingsAt userHome level := by
  rw [settingsAt, settingsAt, h.commonSetting?_eq (by decide +kernel) (by decide +kernel),
    h.commonSetting?_eq (by decide +kernel) (by decide +kernel), h.setting?_eq (by decide +kernel),
    h.systemHome_eq (by decide +kernel)]

end Environment

namespace Program

/-- Whether the program finds the same in two places, up to the variables with a name and up to what
programs do that it launches. -/
structure AgreeApartFrom (name : String) (first second : Surroundings) : Prop where
  environment : first.environment.AgreeApartFrom name second.environment
  userHome : second.userHome = first.userHome
  host : second.host = first.host
  isTerminal : second.isTerminal = first.isTerminal

/-- Whether the program finds the same settings in two places but for the log level, or none because
of the same error. -/
def ConfigureAlike (first second : Surroundings) (flags : Invocation.Flags) : Prop :=
  (∃ error, configure first flags = .error error ∧ configure second flags = .error error) ∨
  ∃ settings level, configure first flags = .ok settings ∧
    configure second flags = .ok { settings with logLevel := level }

variable {first second : Surroundings} {flags : Invocation.Flags} {text : String}

theorem ConfigureAlike.of_eq (h : configure first flags = configure second flags) :
    ConfigureAlike first second flags := by
  rw [ConfigureAlike, ← h]
  cases configure first flags with
  | error error => exact Or.inl ⟨error, rfl, rfl⟩
  | ok settings => exact Or.inr ⟨settings, settings.logLevel, rfl, rfl⟩

/-! ### The log level -/

/-- A flag that is not empty is read instead of the settings. -/
theorem logLevel_of_given (h : flags.logLevel = some text) (htext : text ≠ "")
    (settings : Settings) : logLevel flags settings = LogLevel.read text := by
  rw [logLevel, h]
  split
  · contradiction
  · next hempty => exact absurd (Option.some.inj hempty) htext
  · next other hother => rw [Option.some.inj hother]

theorem logLevel_of_not_given (h : ¬∃ text, flags.logLevel = some text ∧ text ≠ "")
    (settings : Settings) : logLevel flags settings = .ok settings.logLevel := by
  cases hflag : flags.logLevel with
  | none => rw [logLevel, hflag]
  | some text =>
    by_cases htext : text = ""
    · rw [logLevel, hflag, htext]
      rfl
    · exact absurd ⟨text, hflag, htext⟩ h

theorem configure_of_ofEnvironment {surroundings : Surroundings} {settings : Settings}
    (h : Settings.ofEnvironment surroundings.environment surroundings.userHome = .ok settings) :
    configure surroundings flags = (logLevel flags settings).map fun level ↦
      { settings with logLevel := level, prompt := flags.prompt.getD settings.prompt } := by
  rw [configure, h]
  exact (map_eq_pure_bind _ (logLevel flags settings)).symm

theorem exists_configure_of_not_valid (h : ¬first.environment.HasValidLevel)
    (flags : Invocation.Flags) : ∃ error, configure first flags = .error error := by
  obtain ⟨error, herror⟩ := Environment.exists_ofEnvironment_of_not_valid h first.userHome
  rw [configure, herror]
  exact ⟨error, rfl⟩

section

variable (h : AgreeApartFrom "MINISH_LOG_LEVEL" first second)
  (hfirst : first.environment.HasValidLevel) (hsecond : second.environment.HasValidLevel)
include h hfirst hsecond

theorem configureAlike_of_valid (flags : Invocation.Flags) :
    ConfigureAlike first second flags := by
  obtain ⟨level, hlevel⟩ := hfirst.exists_ofEnvironment first.userHome
  obtain ⟨level', hlevel'⟩ := hsecond.exists_ofEnvironment second.userHome
  rw [ConfigureAlike, configure_of_ofEnvironment hlevel, configure_of_ofEnvironment hlevel',
    h.environment.settingsAt_eq first.userHome level, h.userHome]
  by_cases hgiven : ∃ text, flags.logLevel = some text ∧ text ≠ ""
  · obtain ⟨text, htext, hne⟩ := hgiven
    rw [logLevel_of_given htext hne, logLevel_of_given htext hne]
    cases LogLevel.read text with
    | error error => exact Or.inl ⟨error, rfl, rfl⟩
    | ok read => exact Or.inr ⟨_, read, rfl, rfl⟩
  · rw [logLevel_of_not_given hgiven, logLevel_of_not_given hgiven]
    exact Or.inr ⟨_, level', rfl, rfl⟩

/-- If a flag gives a level, they lead to the same settings. -/
theorem configure_of_logLevel {level : LogLevel} (hflag : flags.logLevel = some text)
    (hlevel : LogLevel.ofText? text = some level) :
    ∃ settings, settings.logLevel = level ∧
      configure first flags = .ok settings ∧ configure second flags = .ok settings := by
  have htext : text ≠ "" := by
    intro hempty
    rw [hempty] at hlevel
    exact absurd hlevel (by decide +revert)
  have hread : LogLevel.read text = .ok level := by
    rw [LogLevel.read, hlevel]
  obtain ⟨own, hown⟩ := hfirst.exists_ofEnvironment first.userHome
  obtain ⟨own', hown'⟩ := hsecond.exists_ofEnvironment second.userHome
  rw [configure_of_ofEnvironment hown, configure_of_ofEnvironment hown',
    h.environment.settingsAt_eq first.userHome own, h.userHome,
    logLevel_of_given hflag htext, logLevel_of_given hflag htext, hread]
  exact ⟨_, rfl, rfl, rfl⟩

end

/-! ### The prompt -/

theorem configure_of_prompt {prompt : String} (h : AgreeApartFrom "MINISH_PROMPT" first second)
    (hflag : flags.prompt = some prompt) :
    configure first flags = configure second flags := by
  have henvironment := h.environment
  rw [configure, configure, Settings.ofEnvironment, Settings.ofEnvironment, h.userHome,
    henvironment.setting?_eq (by decide +kernel),
    henvironment.commonSetting?_eq (by decide +kernel) (by decide +kernel),
    henvironment.commonSetting?_eq (by decide +kernel) (by decide +kernel),
    henvironment.systemHome_eq (by decide +kernel), hflag]
  cases LogLevel.ofText? ((second.environment.setting? "MINISH_LOG_LEVEL").getD
    LogLevel.warning.name) <;> rfl

/-- A prompt that a flag gives is the one in the settings. -/
theorem prompt_of_configure {surroundings : Surroundings} {prompt : String} {settings : Settings}
    (hflag : flags.prompt = some prompt) (h : configure surroundings flags = .ok settings) :
    settings.prompt = prompt := by
  obtain ⟨given, -, h⟩ := exists_of_bind_eq_ok h
  obtain ⟨level, -, h⟩ := exists_of_bind_eq_ok h
  rw [← Except.ok.inj h, hflag]
  rfl

end Program

end LineShell
