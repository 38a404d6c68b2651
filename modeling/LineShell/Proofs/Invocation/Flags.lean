import LineShell.Invocation
import Mathlib.Data.List.Basic

/-!
# Settings that flags give

A setting may be given on the command line several times, before the word that names the task and
after it. The flags of an invocation are read off in one pass from the first item to the last, over
the pages that the items belong to. Each item that gives a setting replaces what was read before,
and no page starts afresh. So what counts is the last value that any item gives
(`Invocation.exists_items_of_ofArguments`).
-/

namespace LineShell

/-- A computation that succeeds has succeeded in both of its parts. -/
theorem exists_of_bind_eq_ok {ε α β : Type} {first : Except ε α} {next : α → Except ε β}
    {result : β} (h : first >>= next = .ok result) :
    ∃ value, first = .ok value ∧ next value = .ok result := by
  cases first with
  | error e => contradiction
  | ok value => exact ⟨value, rfl, h⟩

namespace Invocation

/-! ## Values -/

/-- What a setting is set to. -/
def Flags.value? (flags : Flags) : Setting → Option String
  | .logLevel => flags.logLevel
  | .prompt => flags.prompt

/-- The value that an item gives to a setting. -/
def Item.valueFor? (setting : Setting) : Item → Option String
  | .set other value => if other = setting then some value else none
  | .operand _ | .separator | .help _ | .unset _ | .unknown _ => none

/-- The values that items give to a setting, in order. -/
def given (setting : Setting) (items : List Item) : List String :=
  items.filterMap (Item.valueFor? setting)

theorem given_append (setting : Setting) (first second : List Item) :
    given setting (first ++ second) = given setting first ++ given setting second :=
  List.filterMap_append

theorem Flags.value?_set (flags : Flags) (value : String) (other setting : Setting) :
    (flags.set value other).value? setting =
      if other = setting then some value else flags.value? setting := by
  cases other <;> cases setting <;> rfl

/-! ## Readings -/

/-- Whether items lead from one reading to another: the last value that they give to a setting
counts, and a setting that they do not give stays as it was. -/
def Reading.LeadsTo (items : List Item) (before after : Reading) : Prop :=
  ∀ setting,
    after.flags.value? setting = (given setting items).getLast?.or (before.flags.value? setting)

namespace Reading

variable {page : Page} {reading middle after : Reading} {item : Item} {items rest : List Item}

namespace LeadsTo

/-- Items that give no setting. -/
theorem of_flags_eq (hgiven : ∀ setting, given setting items = [])
    (h : after.flags = reading.flags) : LeadsTo items reading after := by
  intro setting
  rw [hgiven, h]
  rfl

theorem nil (reading : Reading) : LeadsTo [] reading reading :=
  of_flags_eq (fun _ ↦ rfl) rfl

theorem append (h : LeadsTo items reading middle) (h' : LeadsTo rest middle after) :
    LeadsTo (items ++ rest) reading after := by
  intro setting
  rw [h' setting, h setting, given_append, List.getLast?_append, Option.or_assoc]

end LeadsTo

theorem leadsTo_of_take (h : reading.take page item = .ok after) :
    LeadsTo [item] reading after := by
  cases item with
  | operand | separator | unknown =>
    obtain rfl := Except.ok.inj h
    exact .of_flags_eq (fun _ ↦ rfl) rfl
  | help value => cases value <;> contradiction
  | unset => contradiction
  | set other value =>
    obtain rfl := Except.ok.inj h
    intro setting
    rw [Flags.value?_set]
    by_cases hother : other = setting
    · have hvalue : (Item.set other value).valueFor? setting = some value := if_pos hother
      rw [if_pos hother, given, List.filterMap_cons_some hvalue]
      rfl
    · have hvalue : (Item.set other value).valueFor? setting = none := if_neg hother
      rw [if_neg hother, given, List.filterMap_cons_none hvalue]
      rfl

/-- One page takes in items from the front, by induction on the items. -/
theorem leadsTo_of_takeFlags (h : reading.takeFlags page items = .ok (after, rest)) :
    ∃ taken, items = taken ++ rest ∧ LeadsTo taken reading after := by
  induction items generalizing reading with
  | nil =>
    obtain ⟨rfl, rfl⟩ := Prod.mk.inj (Except.ok.inj h)
    exact ⟨[], rfl, .nil _⟩
  | cons item items ih =>
    have hstops : (∃ text, item = .operand text) ∨ item = .separator ∨
        reading.takeFlags page (item :: items)
          = (reading.take page item).bind fun reading ↦ reading.takeFlags page items := by
      cases item with
      | operand text => exact Or.inl ⟨text, rfl⟩
      | separator => exact Or.inr (Or.inl rfl)
      | help | set | unset | unknown => exact Or.inr (Or.inr rfl)
    rcases hstops with ⟨text, rfl⟩ | rfl | hgoes
    · obtain ⟨rfl, rfl⟩ := Prod.mk.inj (Except.ok.inj h)
      exact ⟨[], rfl, .nil _⟩
    · obtain ⟨rfl, rfl⟩ := Prod.mk.inj (Except.ok.inj h)
      exact ⟨[], rfl, .nil _⟩
    · rw [hgoes] at h
      obtain ⟨middle, htake, hrest⟩ := exists_of_bind_eq_ok h
      obtain ⟨taken, rfl, htaken⟩ := ih hrest
      exact ⟨item :: taken, rfl, (leadsTo_of_take htake).append htaken⟩

/-- One page takes in all items, by induction on the items. -/
theorem leadsTo_of_takeAll (h : reading.takeAll page items = .ok after) :
    LeadsTo items reading after := by
  induction items generalizing reading with
  | nil =>
    obtain rfl := Except.ok.inj h
    exact .nil _
  | cons item items ih =>
    rw [takeAll, List.foldlM_cons] at h
    obtain ⟨middle, htake, hrest⟩ := exists_of_bind_eq_ok h
    exact (leadsTo_of_take htake).append (ih hrest)

end Reading

open LineShell.Invocation.Reading (LeadsTo)

/-! ## Invocations -/

/-- The operand that items begin with, and a separator around it, give no setting. -/
theorem exists_of_leadingOperand? {items rest : List Item} {text : String}
    (h : leadingOperand? items = some (text, rest)) :
    ∃ front, items = front ++ rest ∧ ∀ setting, given setting front = [] := by
  rw [leadingOperand?.eq_def] at h
  split at h
  · next other behind =>
    obtain ⟨rfl, rfl⟩ := Prod.mk.inj (Option.some.inj h)
    exact ⟨[.separator, .operand other], rfl, fun _ ↦ rfl⟩
  · next other behind =>
    obtain ⟨rfl, rfl⟩ := Prod.mk.inj (Option.some.inj h)
    exact ⟨[.operand other, .separator], rfl, fun _ ↦ rfl⟩
  · next other behind _ =>
    obtain ⟨rfl, rfl⟩ := Prod.mk.inj (Option.some.inj h)
    exact ⟨[.operand other], rfl, fun _ ↦ rfl⟩
  · contradiction

theorem leadsTo_of_readExec {reading after : Reading} {items : List Item} {task : Task}
    (h : readExec reading items = .ok (task, after)) : LeadsTo items reading after := by
  obtain ⟨⟨middle, rest⟩, hflags, hrest⟩ := exists_of_bind_eq_ok h
  obtain ⟨taken, rfl, htaken⟩ := Reading.leadsTo_of_takeFlags hflags
  dsimp only at hrest
  split at hrest
  · contradiction
  · next text behind hoperand =>
    obtain ⟨front, rfl, hfront⟩ := exists_of_leadingOperand? hoperand
    obtain ⟨last, hall, hlast⟩ := exists_of_bind_eq_ok hrest
    obtain ⟨-, rfl⟩ := Prod.mk.inj (Except.ok.inj hlast)
    have hgap : LeadsTo front middle middle := .of_flags_eq hfront rfl
    exact htaken.append (hgap.append (Reading.leadsTo_of_takeAll hall))

theorem leadsTo_of_readGeneral {after : Reading} {items : List Item} {task : Task}
    (h : readGeneral items = .ok (task, after)) : LeadsTo items {} after := by
  obtain ⟨⟨middle, rest⟩, hflags, hrest⟩ := exists_of_bind_eq_ok h
  obtain ⟨taken, rfl, htaken⟩ := Reading.leadsTo_of_takeFlags hflags
  refine htaken.append ?_
  -- The word that names the task gives no setting.
  have hword : ∀ name, LeadsTo [.operand name] middle middle := fun _ ↦
    .of_flags_eq (fun _ ↦ rfl) rfl
  dsimp only at hrest
  split at hrest
  · exact (hword "exec").append (leadsTo_of_readExec hrest)
  · obtain ⟨last, hall, hlast⟩ := exists_of_bind_eq_ok hrest
    obtain ⟨-, rfl⟩ := Prod.mk.inj (Except.ok.inj hlast)
    exact (hword "shell").append (Reading.leadsTo_of_takeAll hall)
  · contradiction
  · contradiction
  · obtain ⟨last, hall, hlast⟩ := exists_of_bind_eq_ok hrest
    obtain ⟨-, rfl⟩ := Prod.mk.inj (Except.ok.inj hlast)
    exact Reading.leadsTo_of_takeAll hall

/-- The flags of an invocation are what its items give last. -/
theorem exists_items_of_ofArguments {arguments : List String} {invocation : Invocation}
    (h : Invocation.ofArguments arguments = .ok invocation) :
    ∃ items, Invocation.items arguments = .ok items ∧
      ∀ setting, invocation.flags.value? setting = (given setting items).getLast? := by
  obtain ⟨items, hitems, h⟩ := exists_of_bind_eq_ok h
  obtain ⟨⟨task, reading⟩, hreading, h⟩ := exists_of_bind_eq_ok h
  refine ⟨items, ?_, fun setting ↦ ?_⟩
  · cases hread : Invocation.items arguments with
    | error e =>
      rw [hread] at hitems
      contradiction
    | ok read =>
      rw [hread] at hitems
      rw [Except.ok.inj hitems]
  · dsimp only at h
    split at h
    · obtain rfl := Except.ok.inj h
      have hnone : ({} : Reading).flags.value? setting = none := by
        cases setting <;> rfl
      have hlast := leadsTo_of_readGeneral hreading setting
      rwa [hnone, Option.or_none] at hlast
    · contradiction

end Invocation

end LineShell
