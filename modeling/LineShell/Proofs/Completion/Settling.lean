import LineShell.Proofs.Completion.Editing
import Mathlib.Logic.Function.Iterate

/-!
# Pressing again and again

What comes of pressing the completion key over and over, each time on the line that the press before
left. Where several names fit, the word grows once at most, to what they have in common. Then the
engine is stuck at the line: it rings the bell once and lists the names from then on
(`Shell.presses_settle`).

The line after the first press is a line like the one before it, with the word replaced. That it is
stuck takes two facts: the word that is found in it is what was put in, as no name holds a blank,
and the names that fit this longer word are the same, as it begins them all
(`Shell.candidates_eq_of_begins`). Whether the first press put something in does not matter then: if
it did not, the word was already all that the names have in common.
-/

namespace LineShell

/-- What there is between two presses. -/
structure Draft where
  engine : Engine
  line : String
  deriving DecidableEq, Repr

namespace Shell

/-- The answer to a press. -/
def answerTo (shell : Shell) (state : State) (draft : Draft) : Except Fault Completion :=
  (shell.complete state draft.engine draft.line).1

/-- What a press leaves. The line is edited as the answer says, and without an answer it is not. -/
def pressOn (shell : Shell) (state : State) (draft : Draft) : Draft where
  engine := (shell.complete state draft.engine draft.line).2
  line :=
    match shell.answerTo state draft with
    | .ok completion => completion.apply draft.line
    | .error _ => draft.line

/-- What there is after a number of presses. -/
def pressedOn (shell : Shell) (state : State) (draft : Draft) (count : Nat) : Draft :=
  (shell.pressOn state)^[count] draft

variable {shell : Shell} {state : State} {names : List String}

theorem pressedOn_succ (draft : Draft) (count : Nat) : shell.pressedOn state draft (count + 1)
    = shell.pressOn state (shell.pressedOn state draft count) :=
  Function.iterate_succ_apply' _ _ _

theorem pressedOn_pressOn (draft : Draft) (count : Nat) :
    shell.pressedOn state (shell.pressOn state draft) count
      = shell.pressedOn state draft (count + 1) :=
  (Function.iterate_succ_apply _ _ _).symm

/-! ## Presses on a line where the engine is stuck -/

theorem answerTo_of_stuck {draft : Draft} (h : Engine.Stuck shell state draft.line names) :
    shell.answerTo state draft = .ok (if draft.engine.pressesOn draft.line = 0
      then .bell (commandWord draft.line) names else .list (commandWord draft.line) names) := by
  rw [answerTo, Engine.complete_of_stuck _ h]

theorem pressOn_of_stuck {draft : Draft} (h : Engine.Stuck shell state draft.line names) :
    shell.pressOn state draft
      = ⟨⟨draft.engine.pressesOn draft.line + 1, some draft.line⟩, draft.line⟩ := by
  rw [pressOn, answerTo_of_stuck h, Engine.complete_of_stuck _ h]
  split_ifs <;> rfl

/-- Presses on a line where the engine is stuck leave the line and are counted. -/
theorem pressedOn_of_stuck (draft : Draft) (h : Engine.Stuck shell state draft.line names)
    (count : Nat) :
    (shell.pressedOn state draft count).line = draft.line ∧
      (shell.pressedOn state draft count).engine.pressesOn draft.line
        = draft.engine.pressesOn draft.line + count := by
  induction count with
  | zero => exact ⟨rfl, rfl⟩
  | succ count ih =>
    obtain ⟨hline, hpresses⟩ := ih
    have hstuck : Engine.Stuck shell state (shell.pressedOn state draft count).line names := by
      rwa [hline]
    rw [pressedOn_succ, pressOn_of_stuck hstuck, hline, hpresses]
    exact ⟨rfl, if_pos rfl⟩

/-- Where nothing counts yet and the engine is stuck, it rings the bell and then lists the names at
every press. -/
theorem answerTo_pressedOn_of_stuck (draft : Draft)
    (h : Engine.Stuck shell state draft.line names)
    (hfresh : draft.engine.pressesOn draft.line = 0) (count : Nat) :
    shell.answerTo state (shell.pressedOn state draft count) = .ok (if count = 0
      then .bell (commandWord draft.line) names else .list (commandWord draft.line) names) := by
  obtain ⟨hline, hpresses⟩ := pressedOn_of_stuck draft h count
  have hstuck : Engine.Stuck shell state (shell.pressedOn state draft count).line names := by
    rwa [hline]
  rw [answerTo_of_stuck hstuck, hline, hpresses, hfresh, Nat.zero_add]

/-! ## Longer words -/

/-- A longer word that begins all the names that fit has the same names to fit. -/
theorem candidates_eq_of_begins {start longer : String}
    (h : shell.candidates state start = .ok names) (hstart : start.toList <+: longer.toList)
    (hbegins : ∀ name ∈ names, longer.toList <+: name.toList) :
    shell.candidates state longer = .ok names := by
  obtain ⟨entries, hentries, rfl⟩ := candidates_eq_ok_iff.mp h
  refine candidates_eq_ok_iff.mpr ⟨entries, hentries, congrArg Names.ofList ?_⟩
  refine List.filter_congr fun name hname ↦ ?_
  rw [Bool.eq_iff_iff, fits_iff, fits_iff]
  refine ⟨hstart.trans, fun hfits ↦ hbegins name ?_⟩
  exact Names.mem_ofList.mpr (List.mem_filter.mpr ⟨hname, fits_iff.mpr hfits⟩)

/-- The engine is stuck at a line with a word that is all that the names which fit have in common. -/
theorem stuck_of_isCommonStart {before after : List Char} {word common : String}
    (hfirst : StandsFirst before word.toList after)
    (hnames : shell.candidates state word = .ok names) (hseveral : 2 ≤ names.length)
    (hcommon : IsCommonStart names common)
    (hplain : ∀ name ∈ names, ∀ c ∈ name.toList, Text.isBlank c = false) :
    commandWord (String.ofList (before ++ common.toList ++ after)) = common ∧
      Engine.Stuck shell state (String.ofList (before ++ common.toList ++ after)) names := by
  have hbegins : ∀ name ∈ names, common.toList <+: name.toList :=
    (hcommon common.toList).mp (List.prefix_refl _)
  have hword : word.toList <+: common.toList :=
    (hcommon word.toList).mpr (begins_of_candidates hnames)
  have hne : common.toList ≠ [] := by
    intro hnil
    rw [hnil, List.prefix_nil] at hword
    exact hfirst.ne_nil hword
  have hblank : ∀ c ∈ common.toList, Text.isBlank c = false := by
    obtain ⟨name, hname⟩ : ∃ name, name ∈ names := List.exists_mem_of_length_pos (by omega)
    exact fun c hc ↦ hplain name hname c ((hbegins name hname).subset hc)
  have hcommand : commandWord (String.ofList (before ++ common.toList ++ after)) = common := by
    rw [commandWord_eq (hfirst.replace hne hblank), String.ofList_toList]
  refine ⟨hcommand, ?_, ?_, hseveral, fun start hstart ↦ ?_⟩
  · rw [hcommand]
    simpa using hne
  · rw [hcommand]
    exact candidates_eq_of_begins hnames hword hbegins
  · rw [hcommand, ← String.length_toList]
    exact ((hcommon start).mpr hstart).length_le

/-! ## Settling -/

/-- A press on a word that is shorter than what the names which fit have in common puts that in, and
nothing counts for the line that it leaves. -/
theorem press_of_shorter (draft : Draft) {before after : List Char} {word : String}
    (hline : draft.line = String.ofList (before ++ word.toList ++ after))
    (hfirst : StandsFirst before word.toList after)
    (hnames : shell.candidates state word = .ok names) (hseveral : 2 ≤ names.length)
    (hshorter : word.length < (longestCommonPrefix names).length) :
    let common := longestCommonPrefix names
    let settled := String.ofList (before ++ common.toList ++ after)
    shell.answerTo state draft = .ok (.replace word common names) ∧
      shell.pressOn state draft = ⟨⟨0, some settled⟩, settled⟩ := by
  intro common settled
  have hcommand : commandWord draft.line = word := by
    rw [hline, commandWord_eq hfirst, String.ofList_toList]
  have hword : commandWord draft.line ≠ "" := by
    rw [hcommand]
    rintro rfl
    exact hfirst.ne_nil rfl
  have hprospect : prospect word names = .longer common := by
    rw [prospect_of_several hseveral, if_pos hshorter]
  have happly : (Completion.replace word common names).apply draft.line = settled := by
    rw [Completion.apply, hline, String.toList_ofList, hfirst.replaceFirst_eq]
  have hcomplete : shell.complete state draft.engine draft.line
      = (.ok (.replace word common names), ⟨0, some settled⟩) := by
    rw [Engine.complete_of_names _ hword (by rw [hcommand, hnames]), hcommand, hprospect]
    dsimp only
    rw [happly]
  have hanswer : shell.answerTo state draft = .ok (.replace word common names) := by
    rw [answerTo, hcomplete]
  refine ⟨hanswer, ?_⟩
  rw [pressOn, hanswer, hcomplete]
  dsimp only
  rw [happly]

/-- **Presses settle.** Where several names without blanks fit the word of a line, and nothing counts
for the line, as with an engine that is new or was reset, every press of a run is known. The first
one puts in what the names have in common if that is longer than the word, and then the line does
not change any more: the next press rings the bell, and all others list the names. All presses find
the same names. -/
theorem presses_settle (shell : Shell) (state : State) (engine : Engine) {line : String}
    {names : List String} (hfresh : engine.pressesOn line = 0) (hword : commandWord line ≠ "")
    (hnames : shell.candidates state (commandWord line) = .ok names) (hseveral : 2 ≤ names.length)
    (hplain : ∀ name ∈ names, ∀ c ∈ name.toList, Text.isBlank c = false) :
    ∃ before after common edits, StandsFirst before (commandWord line).toList after ∧
      line = String.ofList (before ++ (commandWord line).toList ++ after) ∧
      IsCommonStart names common ∧
      edits = (if (commandWord line).length < common.length then 1 else 0) ∧
      ∀ count,
        (shell.pressedOn state ⟨engine, line⟩ count).line = (if count < edits then line
          else String.ofList (before ++ common.toList ++ after)) ∧
        shell.answerTo state (shell.pressedOn state ⟨engine, line⟩ count) = .ok
          (if count < edits then .replace (commandWord line) common names
          else if count = edits then .bell common names else .list common names) := by
  obtain ⟨before, after, hchars, hfirst⟩ := exists_standsFirst hword
  have hline : line = String.ofList (before ++ (commandWord line).toList ++ after) := by
    rw [← hchars, String.ofList_toList]
  set common := longestCommonPrefix names
  set settled := String.ofList (before ++ common.toList ++ after) with hsettled
  have hcommon : IsCommonStart names common := by
    refine isCommonStart_longestCommonPrefix ?_
    rintro rfl
    contradiction
  obtain ⟨hcommand, hstuck⟩ : commandWord settled = common ∧ Engine.Stuck shell state settled names :=
    stuck_of_isCommonStart hfirst hnames hseveral hcommon hplain
  by_cases hshorter : (commandWord line).length < common.length
  · obtain ⟨hanswer, hpress⟩ := press_of_shorter ⟨engine, line⟩ hline hfirst hnames hseveral
      hshorter
    refine ⟨before, after, common, 1, hfirst, hline, hcommon, (if_pos hshorter).symm, ?_⟩
    intro count
    cases count with
    | zero => exact ⟨rfl, hanswer⟩
    | succ count =>
      -- The presses after the first one begin at a draft for whose line nothing counts.
      have hrun := pressedOn_of_stuck ⟨⟨0, some settled⟩, settled⟩ hstuck count
      have hanswers := answerTo_pressedOn_of_stuck ⟨⟨0, some settled⟩, settled⟩ hstuck
        (if_pos rfl) count
      rw [← pressedOn_pressOn, hpress, if_neg (by omega), if_neg (by omega), hanswers, hcommand]
      exact ⟨hrun.1, by simp⟩
  · have hbegins : (commandWord line).toList <+: common.toList :=
      (hcommon _).mpr (begins_of_candidates hnames)
    have hsame : (commandWord line).toList = common.toList := by
      refine hbegins.eq_of_length_le ?_
      rw [String.length_toList, String.length_toList]
      exact Nat.le_of_not_lt hshorter
    have hunchanged : settled = line := by rw [hsettled, ← hsame, ← hline]
    rw [hunchanged] at hcommand hstuck
    refine ⟨before, after, common, 0, hfirst, hline, hcommon, (if_neg hshorter).symm, ?_⟩
    intro count
    have hrun := pressedOn_of_stuck ⟨engine, line⟩ hstuck count
    have hanswers := answerTo_pressedOn_of_stuck ⟨engine, line⟩ hstuck hfresh count
    rw [if_neg (Nat.not_lt_zero count), if_neg (Nat.not_lt_zero count), hanswers, hcommand]
    exact ⟨hrun.1.trans hunchanged.symm, rfl⟩

/-- Three presses on a word that recurs in its line, where two programs fit. -/
theorem presses_settle_on_recurring_word :
    let shell : Shell := { launcher := fun host _ ↦ (.ok {}, host) }
    let state : State := {
      session := { cwd := "/", searchPath := ["/bin"], home := "/" }
      host := { tree := ⟨[(["bin"], .directory), (["bin", "gitk"], .file [] true),
        (["bin", "gitx"], .file [] false)]⟩ } }
    let line := " g g"
    let names := ["gitk", "gitx"]
    Engine.pressesOn {} line = 0 ∧ commandWord line ≠ "" ∧
      shell.candidates state (commandWord line) = .ok names ∧ 2 ≤ names.length ∧
      (∀ name ∈ names, ∀ c ∈ name.toList, Text.isBlank c = false) ∧
      ∃ common edits, IsCommonStart names common ∧
        edits = (if (commandWord line).length < common.length then 1 else 0) ∧
        ∀ count, shell.answerTo state (shell.pressedOn state ⟨{}, line⟩ count) = .ok
          (if count < edits then .replace (commandWord line) common names
          else if count = edits then .bell common names else .list common names) := by
  intro shell state line names
  have hnames : shell.candidates state (commandWord line) = .ok names := by decide +kernel
  have hplain : ∀ name ∈ names, ∀ c ∈ name.toList, Text.isBlank c = false := by
    have hall : (names.all fun name ↦ name.toList.all fun c ↦ !Text.isBlank c) = true := by decide
    simpa [List.all_eq_true] using hall
  obtain ⟨before, after, common, edits, -, -, hcommon, hedits, hpresses⟩ :=
    presses_settle shell state {} rfl (by decide) hnames (by decide) hplain
  exact ⟨rfl, by decide, hnames, by decide, hplain, common, edits, hcommon, hedits,
    fun count ↦ (hpresses count).2⟩

end Shell

end LineShell
