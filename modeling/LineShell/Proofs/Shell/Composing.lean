import LineShell.Proofs.Host.Elsewhere
import LineShell.Proofs.Path.Composing
import LineShell.Proofs.Shell.Entering
import LineShell.Proofs.Shell.Showing

/-!
# Going along paths

Going to a location and from there to another one is going to the two locations, joined to one
(`Shell.cd_cd_iff_cd_join`). What has to be known of locations for that is `Session.expand_join`.
The rest is that a `cd` changes nothing that another one looks at but the working directory: whether
it succeeds, and where it goes, depends on the session and on what stands at an absolute path, and
an absolute path leads to the same place wherever the process is.
-/

namespace LineShell

/-! ## Moving twice -/

namespace State

variable {state : State} {middle path : String}

/-- A state that has gone to a path has moved the process at most, and the session. -/
theorem CanEnter.exists_entering_eq (h : state.CanEnter path) :
    ∃ place, state.host.tree.locate state.host.cwd path = .ok place ∧
      state.entering path = { state with
        host := if state.session.followProcess then state.host.movedTo place else state.host
        session := { state.session with cwd := path } } := by
  obtain ⟨place, hplace, -, henter⟩ := h.exists_enter_eq
  exact ⟨place, hplace, Except.ok.inj (h.enter_eq_entering.symm.trans henter)⟩

theorem canEnter_entering (hmiddle : state.CanEnter middle)
    (habsolute : Path.isAbsolute path = true) :
    (state.entering middle).CanEnter path ↔ state.CanEnter path := by
  obtain ⟨place, -, hentering⟩ := hmiddle.exists_entering_eq
  rw [hentering, CanEnter, CanEnter]
  dsimp only
  split_ifs
  · rw [Host.stat?_movedTo habsolute]
  · exact Iff.rfl

/-- Moving on to an absolute path is moving there at once. -/
theorem entering_entering (hmiddle : state.CanEnter middle)
    (habsolute : Path.isAbsolute path = true) (h : state.CanEnter path) :
    (state.entering middle).entering path = state.entering path := by
  obtain ⟨place, hplace, hentering⟩ := h.exists_entering_eq
  obtain ⟨other, hother, hagain⟩ :=
    ((canEnter_entering hmiddle habsolute).mpr h).exists_entering_eq
  obtain ⟨between, -, hbetween⟩ := hmiddle.exists_entering_eq
  rw [hbetween] at hother hagain
  -- An absolute path leads to the same place wherever the process is.
  have hsame : other = place := by
    refine Except.ok.inj (hother.symm.trans (Eq.trans ?_ hplace))
    dsimp only
    split_ifs
    · exact FileTree.locate_of_isAbsolute habsolute _ _ _ .find
    · rfl
  rw [hbetween, hagain, hentering, hsame]
  dsimp only
  split_ifs <;> rfl

end State

namespace Shell

/-! ## One `cd` -/

/-- The command that goes to a location. -/
def cdTo (location : String) : Command :=
  ⟨"cd", [location], {}⟩

/-- Whether `cd` succeeds in going to a location, and the state that it leaves then. -/
def Goes (shell : Shell) (location : String) (before after : State) : Prop :=
  ∃ result, shell.dispatch (cdTo location) before = .ok result after ∧ result.exitCode = 0

/-- A state that has gone to a location of its session. -/
def gone (location : String) (state : State) : State :=
  logged (.called "cd" [location]) (state.entering (state.session.expand location))

section

variable {shell : Shell} (hcd : shell.commands.find? "cd" = some Builtin.cd)
include hcd

theorem dispatch_cdTo_of_canEnter {location : String} {state : State}
    (h : state.CanEnter (state.session.expand location)) :
    shell.dispatch (cdTo location) state = .ok {} (gone location state) := by
  have hnamed : shell.commands.find? (cdTo location).name = some Builtin.cd := hcd
  have hperform := perform_cd_of_canEnter (shell.execWithin maxNesting) state hnamed
    state.session.cwd h
  exact dispatchWith_of_perform _ rfl hperform (deliverAll_of_silent _ _)

theorem goes_iff {location : String} {before after : State} :
    shell.Goes location before after ↔
      before.CanEnter (before.session.expand location) ∧ after = gone location before := by
  constructor
  · rintro ⟨result, hdispatch, hcode⟩
    have hsucceeds := (exitCode_eq_zero_iff hdispatch).mp hcode
    have hnamed : shell.commands.find? (cdTo location).name = some Builtin.cd := hcd
    have henter := ((succeeds_cd_iff hnamed).mp hsucceeds).2
    have hgone := dispatch_cdTo_of_canEnter hcd henter
    obtain ⟨-, rfl⟩ := EStateM.Result.ok.inj (hgone.symm.trans hdispatch)
    exact ⟨henter, rfl⟩
  · rintro ⟨henter, rfl⟩
    exact ⟨{}, dispatch_cdTo_of_canEnter hcd henter, rfl⟩

/-! ## Two of them -/

variable {first second : String} {start middle finish : State}

/-- A location leads from where another one led to where the two, joined, lead from the start. -/
theorem expand_of_goes (hrooted : start.session.IsRooted) (hsecond : second.toList.head? ≠ some '~')
    (hfirst : shell.Goes first start middle) :
    middle.session.expand second = start.session.expand (Path.join first second) := by
  obtain ⟨-, rfl⟩ := (goes_iff hcd).mp hfirst
  exact Session.expand_join hrooted hsecond

theorem canEnter_of_goes (hfirst : shell.Goes first start middle) {path : String}
    (habsolute : Path.isAbsolute path = true) :
    middle.CanEnter path ↔ start.CanEnter path := by
  obtain ⟨henter, rfl⟩ := (goes_iff hcd).mp hfirst
  exact State.canEnter_entering henter habsolute

/-- **`cd` composes.** In a session whose directories are absolute, let `cd` go to a location. From
there every other location without a tilde in front means what the two, joined, mean from the start.
So `cd` can go on to it exactly if it can go from the start to the two at once; and then all is as
it is after that, apart from what is written down: the session works in the same directory, and so
does the process. -/
theorem cd_cd_iff_cd_join (hrooted : start.session.IsRooted)
    (hsecond : second.toList.head? ≠ some '~') (hfirst : shell.Goes first start middle) :
    middle.session.expand second = start.session.expand (Path.join first second) ∧
    ((∃ finish, shell.Goes second middle finish) ↔
      ∃ finish, shell.Goes (Path.join first second) start finish) ∧
    ∀ finish other, shell.Goes second middle finish →
      shell.Goes (Path.join first second) start other →
      finish = { other with journal := finish.journal } := by
  have hexpand := expand_of_goes hcd hrooted hsecond hfirst
  have habsolute : Path.isAbsolute (start.session.expand (Path.join first second)) = true :=
    (Session.isSettled_expand hrooted _).isAbsolute
  have hcanEnter := canEnter_of_goes hcd hfirst habsolute
  refine ⟨hexpand, ?_, fun finish other hfinish hother ↦ ?_⟩
  · simp only [goes_iff hcd, exists_and_left, exists_eq, and_true, hexpand, hcanEnter]
  · obtain ⟨-, rfl⟩ := (goes_iff hcd).mp hfinish
    obtain ⟨hthere, rfl⟩ := (goes_iff hcd).mp hother
    obtain ⟨henter, rfl⟩ := (goes_iff hcd).mp hfirst
    have hmoves := State.entering_entering henter habsolute hthere
    rw [gone, hexpand]
    change logged _ (logged _ ((start.entering _).entering _)) = _
    rw [hmoves]
    rfl

end

/-- From a directory below home, reached with a tilde, slashes and dots to spare, up through the
root and down again. The process follows. -/
theorem cd_cd_tilde_root :
    let shell : Shell := { launcher := fun host _ ↦ (.ok {}, host) }
    let start : State :=
      { session := ⟨"/", [], "//home/", true⟩
        host := { tree := ⟨[(["home"], .directory), (["home", "x"], .directory),
          (["etc"], .directory)]⟩ } }
    let middle := gone "~//x/..//./x/" start
    let finish := gone ".././../..//etc/" middle
    (shell.commands.find? "cd" = some Builtin.cd ∧ start.session.IsRooted ∧
      ".././../..//etc/".toList.head? ≠ some '~' ∧ shell.Goes "~//x/..//./x/" start middle ∧
      shell.Goes ".././../..//etc/" middle finish) ∧
    middle.session.cwd = "//home/x" ∧ finish.session.cwd = "//etc" ∧ finish.host.cwd = ["etc"] ∧
    ∃ other, shell.Goes "~//x/..//./x/.././../..//etc/" start other ∧
      finish = { other with journal := finish.journal } := by
  intro shell start middle finish
  have hrooted : start.session.IsRooted := ⟨by decide +kernel, by decide +kernel⟩
  have hsecond : ".././../..//etc/".toList.head? ≠ some '~' := by decide +kernel
  have hdown : shell.Goes "~//x/..//./x/" start middle :=
    (goes_iff rfl).mpr ⟨⟨{}, by decide +kernel, fun _ ↦ rfl⟩, rfl⟩
  have hup : shell.Goes ".././../..//etc/" middle finish :=
    (goes_iff rfl).mpr ⟨⟨{}, by decide +kernel, fun _ ↦ rfl⟩, rfl⟩
  obtain ⟨-, hexists, hagree⟩ := cd_cd_iff_cd_join rfl hrooted hsecond hdown
  obtain ⟨other, hother⟩ := hexists.mp ⟨finish, hup⟩
  have hjoin : Path.join "~//x/..//./x/" ".././../..//etc/" = "~//x/..//./x/.././../..//etc/" := by
    decide +kernel
  rw [hjoin] at hother hagree
  exact ⟨⟨rfl, hrooted, hsecond, hdown, hup⟩, by decide +kernel, by decide +kernel,
    by decide +kernel, other, hother, hagree finish other hup hother⟩

end Shell

end LineShell
