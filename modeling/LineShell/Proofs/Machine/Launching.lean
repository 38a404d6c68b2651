import LineShell.Machine
import LineShell.Proofs.Host.Elsewhere
import LineShell.Proofs.Shell.Performing

/-!
# What launchers look at

A shell takes any function for its launcher, so what a launcher does to the process that launches,
and what it learns from it, is asked for where it is needed. Launching is done in a child process:
it does not move the one that launches (`Launcher.Stationary`), and if the child is to start in a
directory that is named by an absolute path, it does not matter where the other one is
(`Launcher.Placeless`).

A request that holds no NUL character can be tried, whatever comes of it (`Launcher.Tries`).

The launcher of a machine is all of this. The working directory of the host serves only to find the
directory that the program starts in.
-/

namespace LineShell

/-- Requests that hold no NUL character. -/
def Launch.IsPlain (launch : Launch) : Prop :=
  ∀ text ∈ launch.path :: launch.cwd :: launch.argv, Path.hasNul text = false

namespace Launcher

/-- Launchers that try every request without NUL characters: they run the program or tell why it
could not be started. -/
def Tries (launcher : Launcher) : Prop :=
  ∀ host launch, launch.IsPlain → Launch.Attempted (launcher host launch).1

/-- Launchers that leave the working directory of the process alone. -/
def Stationary (launcher : Launcher) : Prop :=
  ∀ host launch, (launcher host launch).2.cwd = host.cwd

/-- Launchers to which it does not matter where the process is, if the program is to start in a
directory that is named by an absolute path. -/
def Placeless (launcher : Launcher) : Prop :=
  ∀ host launch here, Path.isAbsolute launch.cwd = true →
    launcher (host.movedTo here) launch
      = ((launcher host launch).1, (launcher host launch).2.movedTo here)

end Launcher

namespace Machine

variable (environment : Environment)

/-- A machine tries every request without NUL characters. -/
theorem launcher_tries : (launcher environment).Tries := by
  intro host launch hplain
  have hnone : ¬(launch.path :: launch.cwd :: launch.argv).any Path.hasNul = true := by
    rw [List.any_eq_true]
    rintro ⟨text, htext, hnul⟩
    rw [hplain text htext] at hnul
    contradiction
  rw [launcher, if_neg hnone]
  dsimp only
  split <;> trivial

/-- A machine launches without moving the process that launches. -/
theorem launcher_stationary : (launcher environment).Stationary := by
  intro host launch
  rw [launcher]
  split_ifs
  · rfl
  · dsimp only
    split <;> rfl

/-- A machine launches in an absolute directory alike from everywhere. -/
theorem launcher_placeless : (launcher environment).Placeless := by
  intro host launch here habsolute
  have hplace : (host.movedTo here).tree.workingPlace (host.movedTo here).cwd launch.cwd
      = host.tree.workingPlace host.cwd launch.cwd :=
    FileTree.workingPlace_of_isAbsolute habsolute _ _ _
  have halone : ∀ place, runAlone (host.movedTo here) environment place launch
      = runAlone host environment place launch := by
    intro place
    rw [runAlone, runAlone, Host.movedTo]
  rw [launcher, launcher]
  split_ifs
  · rfl
  · dsimp only
    rw [hplace]
    simp only [halone]
    split <;> rfl

end Machine

end LineShell
