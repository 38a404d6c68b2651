import LineShell.Proofs.Completion.Beginnings
import Mathlib.Data.List.Induction
import Mathlib.Tactic.SplitIfs

/-!
# Presses in a row

The engine that completes lines remembers a number and a line. Read against what it was asked
before, the number tells one thing only: it is positive for a line exactly if the history ends in a
streak on that line, which is a call that was stuck and then calls of the same line, none of which
put anything in and with no reset among them (`Engine.Streak`). A call may take part in a streak
without being stuck, as when the names that fit are gone for a while.

What an exchange does to the number is said once (`Engine.pressesOn_respond_pos_iff`), and the law
of the history follows by induction from the right. The engine is asked by shells and in states that
may differ from call to call.

Whether a call is stuck is said without the common beginning that the engine works out: several
names fit, and nothing that is longer than the word begins them all.
-/

namespace LineShell

/-! ## Words that cannot be made longer -/

theorem prospect_of_several {names : List String} (h : 2 ≤ names.length) (word : String) :
    prospect word names = if word.length < (longestCommonPrefix names).length
      then .longer (longestCommonPrefix names) else .stuck := by
  match names with
  | [] | [_] => simp at h
  | _ :: _ :: _ => rfl

theorem prospect_eq_stuck_iff {word : String} {names : List String} :
    prospect word names = .stuck ↔
      2 ≤ names.length ∧ (longestCommonPrefix names).length ≤ word.length := by
  match names with
  | [] => simp [prospect]
  | [name] => simp [prospect]
  | first :: second :: rest =>
    have hseveral : 2 ≤ (first :: second :: rest).length := by
      rw [List.length_cons, List.length_cons]
      omega
    rw [prospect_of_several hseveral, and_iff_right hseveral]
    split_ifs with hlonger
    · exact iff_of_false nofun (Nat.not_le.mpr hlonger)
    · exact iff_of_true rfl (Nat.le_of_not_lt hlonger)

theorem prospect_eq_stuck_iff_forall {word : String} {names : List String} :
    prospect word names = .stuck ↔ 2 ≤ names.length ∧ ∀ start : List Char,
      (∀ name ∈ names, start <+: name.toList) → start.length ≤ word.length := by
  rw [prospect_eq_stuck_iff]
  refine and_congr_right fun hlength ↦ length_longestCommonPrefix_le_iff ?_
  rintro rfl
  contradiction

namespace Engine

/-! ## Calls -/

/-- Something that the engine is asked. -/
inductive Request where
  /-- Complete a line, in a shell and a state as they are then. -/
  | complete (shell : Shell) (state : State) (line : String)
  /-- Forget everything. -/
  | reset

/-- Whether the engine is stuck at a line: there is a word to complete, several names fit, and
nothing that is longer than the word begins them all. -/
def Stuck (shell : Shell) (state : State) (line : String) (names : List String) : Prop :=
  commandWord line ≠ "" ∧ shell.candidates state (commandWord line) = .ok names ∧
    2 ≤ names.length ∧ ∀ start : List Char, (∀ name ∈ names, start <+: name.toList) →
      start.length ≤ (commandWord line).length

/-- A request and what it was answered. -/
structure Exchange where
  request : Request
  answer? : Option (Except Fault Completion) := none

namespace Exchange

/-- Whether the engine was asked to complete a line and was stuck. -/
def IsStuckOn (line : String) (exchange : Exchange) : Prop :=
  ∃ shell state names, exchange.request = .complete shell state line ∧ Stuck shell state line names

/-- Whether something was put in. -/
def PutsIn (exchange : Exchange) : Prop :=
  ∃ word replacement names, exchange.answer? = some (.ok (.replace word replacement names))

/-- Whether the names that fit were listed. -/
def Lists (exchange : Exchange) : Prop :=
  ∃ word names, exchange.answer? = some (.ok (.list word names))

/-- Whether the bell was rung. -/
def Rings (exchange : Exchange) : Prop :=
  ∃ word names, exchange.answer? = some (.ok (.bell word names))

/-- Whether the engine was asked to complete a line and put nothing in. -/
def StaysOn (line : String) (exchange : Exchange) : Prop :=
  (∃ shell state, exchange.request = .complete shell state line) ∧ ¬ exchange.PutsIn

end Exchange

/-- Whether a history ends in a streak on a line. -/
def Streak (history : List Exchange) (line : String) : Prop :=
  ∃ earlier call since, history = earlier ++ call :: since ∧ call.IsStuckOn line ∧
    ∀ exchange ∈ call :: since, exchange.StaysOn line

/-- A request that is answered, and the engine afterwards. -/
def respond (engine : Engine) : Request → Exchange × Engine
  | .complete shell state line =>
    let answer := shell.complete state engine line
    (⟨.complete shell state line, some answer.1⟩, answer.2)
  | .reset => (⟨.reset, none⟩, {})

/-- Requests that are answered one after the other. -/
def respondAll (engine : Engine) : List Request → List Exchange × Engine
  | [] => ([], engine)
  | request :: rest =>
    let first := engine.respond request
    let others := first.2.respondAll rest
    (first.1 :: others.1, others.2)

theorem respondAll_append (engine : Engine) (requests others : List Request) :
    engine.respondAll (requests ++ others) =
      ((engine.respondAll requests).1 ++ ((engine.respondAll requests).2.respondAll others).1,
        ((engine.respondAll requests).2.respondAll others).2) := by
  induction requests generalizing engine with
  | nil => rfl
  | cons first rest ih =>
    rw [List.cons_append, respondAll, respondAll, ih]
    rfl

theorem respondAll_singleton (engine : Engine) (request : Request) :
    engine.respondAll [request] = ([(engine.respond request).1], (engine.respond request).2) := rfl

theorem streak_append_iff {history : List Exchange} {exchange : Exchange} {line : String} :
    Streak (history ++ [exchange]) line ↔
      exchange.StaysOn line ∧ (Streak history line ∨ exchange.IsStuckOn line) := by
  constructor
  · rintro ⟨earlier, call, since, hhistory, hstuck, hstay⟩
    rcases List.eq_nil_or_concat since with rfl | ⟨since, last, rfl⟩
    -- The streak begins with the exchange itself, or with a call before it.
    · obtain ⟨rfl, hcall⟩ := List.append_inj' hhistory rfl
      obtain rfl := List.singleton_inj.mp hcall
      exact ⟨hstay exchange List.mem_cons_self, Or.inr hstuck⟩
    · rw [List.concat_eq_append, ← List.cons_append] at hhistory hstay
      rw [← List.append_assoc] at hhistory
      obtain ⟨rfl, hlast⟩ := List.append_inj' hhistory rfl
      obtain rfl := List.singleton_inj.mp hlast
      refine ⟨hstay exchange (List.mem_append_right _ (List.mem_singleton_self _)), Or.inl ?_⟩
      exact ⟨earlier, call, since, rfl, hstuck, fun other hother ↦
        hstay other (List.mem_append_left _ hother)⟩
  · rintro ⟨hstays, ⟨earlier, call, since, rfl, hstuck, hstay⟩ | hstuck⟩
    · refine ⟨earlier, call, since ++ [exchange], by rw [List.append_assoc, List.cons_append],
        hstuck, fun other hother ↦ ?_⟩
      rw [← List.cons_append] at hother
      rcases List.mem_append.mp hother with hother | hother
      · exact hstay other hother
      · rw [List.mem_singleton.mp hother]
        exact hstays
    · refine ⟨history, exchange, [], rfl, hstuck, fun other hother ↦ ?_⟩
      rw [List.mem_singleton.mp hother]
      exact hstays

/-! ## What a call does -/

section Complete

variable {shell : Shell} {state : State} {line : String} {names : List String}

theorem complete_of_eq_empty (engine : Engine) (h : commandWord line = "") :
    shell.complete state engine line = (.ok .nothing, ⟨engine.pressesOn line, some line⟩) := by
  rw [Shell.complete, complete, if_pos (String.isEmpty_iff.mpr h)]

theorem complete_of_error (engine : Engine) {fault : Fault} (h : commandWord line ≠ "")
    (hnames : shell.candidates state (commandWord line) = .error fault) :
    shell.complete state engine line
      = (.error fault, { engine with presses := engine.pressesOn line }) := by
  rw [Shell.complete, complete, if_neg (mt String.isEmpty_iff.mp h), hnames]

theorem complete_of_names (engine : Engine) (h : commandWord line ≠ "")
    (hnames : shell.candidates state (commandWord line) = .ok names) :
    shell.complete state engine line =
      match prospect (commandWord line) names with
      | .hopeless => (.ok (.bell (commandWord line) names), ⟨engine.pressesOn line, some line⟩)
      | .longer replacement =>
        (.ok (.replace (commandWord line) replacement names), ⟨0,
          some (Completion.apply (.replace (commandWord line) replacement names) line)⟩)
      | .stuck =>
        (.ok (if engine.pressesOn line = 0 then .bell (commandWord line) names
            else .list (commandWord line) names), ⟨engine.pressesOn line + 1, some line⟩) := by
  rewrite [Shell.complete, complete, if_neg (mt String.isEmpty_iff.mp h), hnames]
  rfl

theorem stuck_iff : Stuck shell state line names ↔ commandWord line ≠ "" ∧
    shell.candidates state (commandWord line) = .ok names ∧
    prospect (commandWord line) names = .stuck := by
  rw [Stuck, prospect_eq_stuck_iff_forall]

theorem pressesOn_remembered (engine : Engine) (line other : String) :
    pressesOn ⟨engine.pressesOn line, some line⟩ other
      = if line = other then engine.pressesOn other else 0 := by
  rw [pressesOn]
  by_cases hline : line = other
  · subst hline
    rw [if_pos rfl, if_pos rfl]
  · rw [if_neg hline, if_neg fun hsome ↦ hline (Option.some.inj hsome)]

/-- A line that was asked about in vain is not remembered, but what counts is the same. -/
theorem pressesOn_unremembered (engine : Engine) (line other : String) :
    pressesOn { engine with presses := engine.pressesOn line } other
      = if line = other then engine.pressesOn other else 0 := by
  by_cases hline : line = other
  · subst hline
    rw [if_pos rfl, pressesOn, pressesOn]
    split_ifs <;> rfl
  · rw [if_neg hline, pressesOn, pressesOn]
    dsimp only
    split_ifs with hother hlast
    · exact absurd (Option.some.inj (hlast.symm.trans hother)) hline
    · rfl
    · rfl

/-- A call that is stuck counts, and lists the names if an earlier one counts for its line. -/
theorem complete_of_stuck (engine : Engine) (h : Stuck shell state line names) :
    shell.complete state engine line =
      (.ok (if engine.pressesOn line = 0 then .bell (commandWord line) names
          else .list (commandWord line) names),
        ⟨engine.pressesOn line + 1, some line⟩) := by
  obtain ⟨hword, hnames, hprospect⟩ := stuck_iff.mp h
  rw [complete_of_names engine hword hnames, hprospect]

/-- A call that is not stuck lists nothing. Either it puts something in, and then nothing counts, or
what counts for its line still does. -/
theorem complete_of_not_stuck (engine : Engine)
    (h : ∀ names, ¬ Stuck shell state line names) :
    ∃ outcome after, shell.complete state engine line = (outcome, after) ∧
      (∀ word names, outcome ≠ .ok (.list word names)) ∧
      ((∃ word replacement names, outcome = .ok (.replace word replacement names) ∧
          ∀ other, after.pressesOn other = 0) ∨
        (∀ word replacement names, outcome ≠ .ok (.replace word replacement names)) ∧
          ∀ other, after.pressesOn other
            = if line = other then engine.pressesOn other else 0) := by
  by_cases hword : commandWord line = ""
  · exact ⟨_, _, complete_of_eq_empty engine hword, by simp,
      Or.inr ⟨by simp, pressesOn_remembered engine line⟩⟩
  cases hnames : shell.candidates state (commandWord line) with
  | error fault =>
    exact ⟨_, _, complete_of_error engine hword hnames, by simp,
      Or.inr ⟨by simp, pressesOn_unremembered engine line⟩⟩
  | ok names =>
    have hcomplete := complete_of_names engine hword hnames
    cases hprospect : prospect (commandWord line) names with
    | hopeless =>
      rw [hprospect] at hcomplete
      exact ⟨_, _, hcomplete, by simp, Or.inr ⟨by simp, pressesOn_remembered engine line⟩⟩
    | longer replacement =>
      rw [hprospect] at hcomplete
      refine ⟨_, _, hcomplete, by simp, Or.inl ⟨_, _, _, rfl, fun other ↦ ?_⟩⟩
      rw [pressesOn, ite_self]
    | stuck => exact absurd (stuck_iff.mpr ⟨hword, hnames, hprospect⟩) (h names)

/-- Names are listed exactly if the engine is stuck and something counts for the line. -/
theorem complete_lists_iff {engine : Engine} :
    (∃ word names, (shell.complete state engine line).1 = .ok (.list word names)) ↔
      (∃ names, Stuck shell state line names) ∧ 0 < engine.pressesOn line := by
  by_cases hstuck : ∃ names, Stuck shell state line names
  · rw [and_iff_right hstuck]
    obtain ⟨names, hstuck⟩ := hstuck
    rw [complete_of_stuck _ hstuck]
    by_cases hzero : engine.pressesOn line = 0
    · rw [if_pos hzero, hzero]
      exact iff_of_false (by simp) (Nat.lt_irrefl 0)
    · rw [if_neg hzero]
      exact iff_of_true ⟨_, _, rfl⟩ (Nat.pos_of_ne_zero hzero)
  · obtain ⟨outcome, after, hcomplete, hlists, -⟩ :=
      complete_of_not_stuck engine (not_exists.mp hstuck)
    rw [hcomplete]
    refine iff_of_false ?_ fun h ↦ hstuck h.1
    rintro ⟨word, names, houtcome⟩
    exact hlists word names houtcome

/-- A call that is stuck lists the names or rings the bell. -/
theorem complete_lists_or_rings (engine : Engine) (h : Stuck shell state line names) :
    ∃ word, (shell.complete state engine line).1 = .ok (.list word names) ∨
      (shell.complete state engine line).1 = .ok (.bell word names) := by
  rw [complete_of_stuck engine h]
  refine ⟨commandWord line, ?_⟩
  split_ifs
  · exact Or.inr rfl
  · exact Or.inl rfl

/-- Nothing counts for a line once another one was asked about. -/
theorem pressesOn_complete_of_ne {engine : Engine} {other : String} (h : line ≠ other) :
    (shell.complete state engine line).2.pressesOn other = 0 := by
  by_cases hstuck : ∃ names, Stuck shell state line names
  · obtain ⟨names, hstuck⟩ := hstuck
    rw [complete_of_stuck _ hstuck, pressesOn, if_neg fun hsome ↦ h (Option.some.inj hsome)]
  · obtain ⟨outcome, after, hcomplete, -, ⟨-, -, -, -, hcount⟩ | ⟨-, hcount⟩⟩ :=
      complete_of_not_stuck engine (not_exists.mp hstuck)
    · rw [hcomplete, hcount]
    · rw [hcomplete, hcount, if_neg h]

/-- Something counts for a line after a call of it exactly if nothing was put in and either
something counted for it before or the engine is stuck. -/
theorem pressesOn_complete_self_iff {engine : Engine} :
    0 < (shell.complete state engine line).2.pressesOn line ↔
      (¬ ∃ word replacement names,
        (shell.complete state engine line).1 = .ok (.replace word replacement names)) ∧
      (0 < engine.pressesOn line ∨ ∃ names, Stuck shell state line names) := by
  by_cases hstuck : ∃ names, Stuck shell state line names
  · rw [or_iff_right_of_imp fun _ ↦ hstuck, and_iff_left hstuck]
    obtain ⟨names, hnames⟩ := hstuck
    rw [complete_of_stuck engine hnames, pressesOn, if_pos rfl]
    refine iff_of_true (Nat.succ_pos _) ?_
    rintro ⟨word, replacement, fitting, hanswer⟩
    split_ifs at hanswer <;> simp at hanswer
  · rw [or_iff_left hstuck]
    obtain ⟨outcome, after, hcomplete, -, ⟨word, replacement, names, houtcome, hcount⟩ |
      ⟨houtcome, hcount⟩⟩ := complete_of_not_stuck engine (not_exists.mp hstuck)
    · rw [hcomplete, hcount]
      exact iff_of_false (Nat.lt_irrefl 0) fun h ↦ h.1 ⟨word, replacement, names, houtcome⟩
    · rw [hcomplete, hcount, if_pos rfl]
      refine (and_iff_right ?_).symm
      rintro ⟨word, replacement, names, hputs⟩
      exact houtcome word replacement names hputs

end Complete

/-! ## The law of the count -/

open Exchange (IsStuckOn StaysOn)

theorem isStuckOn_complete_iff {shell : Shell} {state : State} {line : String}
    {answer? : Option (Except Fault Completion)} :
    IsStuckOn line ⟨.complete shell state line, answer?⟩
      ↔ ∃ names, Stuck shell state line names := by
  constructor
  · rintro ⟨shell, state, names, hrequest, hstuck⟩
    obtain ⟨rfl, rfl, -⟩ := Request.complete.inj hrequest
    exact ⟨names, hstuck⟩
  · rintro ⟨names, hstuck⟩
    exact ⟨shell, state, names, rfl, hstuck⟩

theorem staysOn_complete_iff {shell : Shell} {state : State} {line : String}
    {outcome : Except Fault Completion} :
    StaysOn line ⟨.complete shell state line, some outcome⟩
      ↔ ¬ ∃ word replacement names, outcome = .ok (.replace word replacement names) := by
  rw [StaysOn, and_iff_right ⟨shell, state, rfl⟩, Exchange.PutsIn]
  simp only [Option.some_inj]

/-- What an exchange does to the count: it is positive for a line afterwards if the exchange stays
on the line and either is stuck or finds the count positive. -/
theorem pressesOn_respond_pos_iff (engine : Engine) (request : Request) (line : String) :
    0 < (engine.respond request).2.pressesOn line ↔ (engine.respond request).1.StaysOn line ∧
      (0 < engine.pressesOn line ∨ (engine.respond request).1.IsStuckOn line) := by
  cases request with
  | reset =>
    refine iff_of_false (Nat.lt_irrefl 0) ?_
    rintro ⟨⟨⟨shell, state, hrequest⟩, -⟩, -⟩
    contradiction
  | complete shell state asked =>
    by_cases hasked : asked = line
    · subst hasked
      rw [respond, staysOn_complete_iff, isStuckOn_complete_iff]
      exact pressesOn_complete_self_iff
    · refine iff_of_false ?_ ?_
      · rw [respond, pressesOn_complete_of_ne hasked]
        exact Nat.lt_irrefl 0
      · rintro ⟨⟨⟨shell, state, hrequest⟩, -⟩, -⟩
        obtain ⟨-, -, rfl⟩ := Request.complete.inj hrequest
        contradiction

/-- **What the count means**, by induction on the requests from the right: it is positive for a line
exactly if the history ends in a streak on it. -/
theorem pressesOn_respondAll_pos_iff (requests : List Request) (line : String) :
    0 < (respondAll {} requests).2.pressesOn line ↔ Streak (respondAll {} requests).1 line := by
  induction requests using List.reverseRecOn with
  | nil =>
    refine iff_of_false (Nat.lt_irrefl 0) ?_
    rintro ⟨earlier, call, since, hhistory, -⟩
    simp [respondAll] at hhistory
  | append_singleton requests request ih =>
    rw [respondAll_append, respondAll_singleton, streak_append_iff, ← ih]
    exact pressesOn_respond_pos_iff _ request line

/-- **The law of the count.** Whatever an engine was asked before, it lists names exactly if it is
stuck at the line that it is asked to complete and its history ends in a streak on that line. When
it is stuck and does not list them, it rings the bell. -/
theorem lists_iff_streak (requests : List Request) (shell : Shell) (state : State) (line : String) :
    let history := (respondAll {} requests).1
    let call := ((respondAll {} requests).2.respond (.complete shell state line)).1
    (call.Lists ↔ call.IsStuckOn line ∧ Streak history line) ∧
      (call.IsStuckOn line → ¬ call.Lists → call.Rings) := by
  intro history call
  have hcount : 0 < (respondAll {} requests).2.pressesOn line ↔ Streak history line :=
    pressesOn_respondAll_pos_iff requests line
  have hanswer : call.answer? = some (shell.complete state (respondAll {} requests).2 line).1 := rfl
  have hstuck : call.IsStuckOn line ↔ ∃ names, Stuck shell state line names :=
    isStuckOn_complete_iff
  constructor
  · rw [Exchange.Lists, hanswer, hstuck, ← hcount, ← complete_lists_iff]
    simp only [Option.some_inj]
  · intro hcall hsilent
    obtain ⟨names, hnames⟩ := hstuck.mp hcall
    obtain ⟨word, hlists | hrings⟩ :=
      complete_lists_or_rings (respondAll {} requests).2 hnames
    · exact absurd ⟨word, names, hanswer.trans (congrArg some hlists)⟩ hsilent
    · exact ⟨word, names, hanswer.trans (congrArg some hrings)⟩

end Engine

end LineShell
