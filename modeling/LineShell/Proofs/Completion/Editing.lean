import LineShell.Proofs.Completion.Presses
import LineShell.Proofs.Completion.Proposals
import Mathlib.Data.List.TakeWhile

/-!
# What a completion edits

The word to complete is found by reading a line from blank to blank, and the place where something
else is put in is found by looking for the word in the line as for any text. That both mean the same
place is due to what stands before the word: nothing but blanks, and the word does not begin with
one, so it cannot occur earlier (`StandsFirst.around?_eq`). It may well occur again later.

So the line after a completion is known from the line before it, and is written here by putting
together the same three parts, of which only the middle one has changed
(`Shell.complete_edits_first_word`). What the engine answers is said once and for all engines by
`Shell.Answers`.
-/

namespace LineShell

/-! ## The first word -/

/-- Whether a word stands first in a line: between blanks and something that does not go on with
it. -/
structure StandsFirst (before word after : List Char) : Prop where
  before_blank : ∀ c ∈ before, Text.isBlank c = true
  ne_nil : word ≠ []
  not_blank : ∀ c ∈ word, Text.isBlank c = false
  after_blank : ∀ c ∈ after.head?, Text.isBlank c = true

namespace StandsFirst

variable {before word after : List Char}

theorem iff_all : StandsFirst before word after ↔
    (before.all Text.isBlank && !word.isEmpty && (word.all fun c ↦ !Text.isBlank c)
      && after.head?.all Text.isBlank) = true := by
  simp only [Bool.and_eq_true, List.all_eq_true, Option.all_eq_true, Bool.not_eq_true',
    List.isEmpty_eq_false_iff]
  exact ⟨fun ⟨hbefore, hne, hword, hafter⟩ ↦ ⟨⟨⟨hbefore, hne⟩, hword⟩, hafter⟩,
    fun ⟨⟨⟨hbefore, hne⟩, hword⟩, hafter⟩ ↦ ⟨hbefore, hne, hword, hafter⟩⟩

instance : Decidable (StandsFirst before word after) :=
  decidable_of_iff _ iff_all.symm

theorem firstWord_eq (h : StandsFirst before word after) :
    Text.firstWord (before ++ word ++ after) = word := by
  obtain ⟨c, rest, rfl⟩ := List.exists_cons_of_ne_nil h.ne_nil
  have hdrop : (before ++ (c :: rest) ++ after).dropWhile Text.isBlank = c :: rest ++ after := by
    rw [List.append_assoc, List.dropWhile_append_of_pos h.before_blank, List.cons_append,
      List.dropWhile_cons_of_neg]
    simp [h.not_blank c List.mem_cons_self]
  have hall : ∀ d ∈ c :: rest, (!Text.isBlank d) = true := by
    intro d hd
    rw [h.not_blank d hd]
    rfl
  rw [Text.firstWord, hdrop, List.takeWhile_append_of_pos hall]
  cases after with
  | nil => simp
  | cons d after =>
    rw [List.takeWhile_cons_of_neg, List.append_nil]
    simp [h.after_blank d rfl]

/-- A word that stands first does not occur earlier, since an occurrence does not begin with a
blank. -/
theorem around?_eq (h : StandsFirst before word after) :
    around? word (before ++ word ++ after) = some (before, after) := by
  obtain ⟨c, rest, rfl⟩ := List.exists_cons_of_ne_nil h.ne_nil
  have hblank := h.before_blank
  induction before with
  | nil =>
    rw [List.nil_append, List.cons_append, around?, if_pos]
    · rw [List.length_cons, List.drop_succ_cons, List.drop_left]
    · rw [List.isPrefixOf_iff_prefix, ← List.cons_append]
      exact List.prefix_append _ _
  | cons b before ih =>
    obtain ⟨hb, hbefore⟩ := List.forall_mem_cons.mp hblank
    have hother : b ≠ c := by
      rintro rfl
      rw [h.not_blank b List.mem_cons_self] at hb
      contradiction
    have hrest : StandsFirst before (c :: rest) after := { h with before_blank := hbefore }
    rw [List.cons_append, List.cons_append, around?, if_neg, ih hrest hbefore]
    · rfl
    · rw [List.isPrefixOf_iff_prefix]
      exact fun hprefix ↦ hother (List.cons_prefix_cons.mp hprefix).1.symm

theorem replaceFirst_eq (h : StandsFirst before word after) (replacement : List Char) :
    replaceFirst word replacement (before ++ word ++ after) = before ++ replacement ++ after := by
  rw [replaceFirst, h.around?_eq]

/-- Another word without blanks stands first where one did. -/
theorem replace (h : StandsFirst before word after) {other : List Char} (hne : other ≠ [])
    (hother : ∀ c ∈ other, Text.isBlank c = false) : StandsFirst before other after :=
  { h with ne_nil := hne, not_blank := hother }

end StandsFirst

/-- What is left when a class of characters is dropped does not begin with one of them. -/
private theorem eq_false_of_mem_head?_dropWhile {p : Char → Bool} {cs : List Char} {c : Char}
    (h : c ∈ (cs.dropWhile p).head?) : p c = false := by
  have hhead := List.head?_dropWhile_not p cs
  rwa [h] at hhead

theorem commandWord_eq_empty_iff {line : String} :
    commandWord line = "" ↔ ∀ c ∈ line.toList, Text.isBlank c = true := by
  rw [commandWord, String.ofList_eq_empty_iff, Text.firstWord, ← List.dropWhile_eq_nil_iff]
  cases hdrop : line.toList.dropWhile Text.isBlank with
  | nil => simp
  | cons c rest =>
    have hc : Text.isBlank c = false := eq_false_of_mem_head?_dropWhile (by rw [hdrop]; rfl)
    simp [hc]

/-- Every line that is not blank has a word that stands first, and it is the one to complete. -/
theorem exists_standsFirst {line : String} (h : commandWord line ≠ "") :
    ∃ before after, line.toList = before ++ (commandWord line).toList ++ after ∧
      StandsFirst before (commandWord line).toList after := by
  have hword : (commandWord line).toList = Text.firstWord line.toList := String.toList_ofList
  refine ⟨line.toList.takeWhile Text.isBlank,
    (line.toList.dropWhile Text.isBlank).dropWhile fun c ↦ !Text.isBlank c, ?_, ?_⟩
  · rw [hword, Text.firstWord, List.append_assoc, List.takeWhile_append_dropWhile,
      List.takeWhile_append_dropWhile]
  · refine ⟨fun c hc ↦ List.mem_takeWhile_imp hc, by simpa using h, fun c hc ↦ ?_, fun c hc ↦ ?_⟩
    · rw [hword] at hc
      exact Text.isBlank_eq_false_of_mem_firstWord hc
    · simpa using eq_false_of_mem_head?_dropWhile hc

/-- A word that stands first in a line is the word that is completed. -/
theorem commandWord_eq {before word after : List Char} (h : StandsFirst before word after) :
    commandWord (String.ofList (before ++ word ++ after)) = String.ofList word := by
  rw [commandWord, String.toList_ofList, h.firstWord_eq]

/-! ## What the word becomes -/

/-- Whether a text is the longest one that begins all words of a list. -/
def IsCommonStart (words : List String) (text : String) : Prop :=
  ∀ start : List Char, start <+: text.toList ↔ ∀ word ∈ words, start <+: word.toList

/-- What a word is replaced by, given the names that fit: it goes on from the word, and it is the
only name with a space after it, or as much as several names have in common. -/
structure Extends (word : String) (names : List String) (replacement : String) : Prop where
  begins : word.toList <+: replacement.toList
  longer : word.length < replacement.length
  shape : (∃ name, names = [name] ∧ replacement = name ++ " ") ∨
    2 ≤ names.length ∧ IsCommonStart names replacement

theorem isCommonStart_longestCommonPrefix {words : List String} (h : words ≠ []) :
    IsCommonStart words (longestCommonPrefix words) :=
  fun _ ↦ prefix_longestCommonPrefix_iff h

/-- What can be put in the place of a word that begins all the names goes on from it. -/
theorem extends_of_prospect {word replacement : String} {names : List String}
    (hbegins : ∀ name ∈ names, word.toList <+: name.toList)
    (h : prospect word names = .longer replacement) : Extends word names replacement := by
  match names with
  | [] => contradiction
  | [name] =>
    obtain rfl : name ++ " " = replacement := Prospect.longer.inj h
    have hname : word.toList <+: name.toList := hbegins name List.mem_cons_self
    refine ⟨?_, ?_, Or.inl ⟨name, rfl, rfl⟩⟩
    · rw [String.toList_append]
      exact hname.trans (List.prefix_append _ _)
    · have hlength := hname.length_le
      rw [String.length_toList, String.length_toList] at hlength
      rw [String.length_append]
      have hspace : " ".length = 1 := rfl
      omega
  | first :: second :: rest =>
    have hne : first :: second :: rest ≠ [] := List.cons_ne_nil _ _
    have hseveral : 2 ≤ (first :: second :: rest).length := by
      rw [List.length_cons, List.length_cons]
      omega
    rw [prospect_of_several hseveral] at h
    split_ifs at h with hlonger
    obtain rfl := Prospect.longer.inj h
    exact ⟨(prefix_longestCommonPrefix_iff hne).mpr hbegins, hlonger,
      Or.inr ⟨hseveral, isCommonStart_longestCommonPrefix hne⟩⟩

namespace Shell

variable {shell : Shell} {state : State}

/-! ## Answers -/

/-- What the engine can answer about a line. -/
inductive Answers (shell : Shell) (state : State) (line : String) : Completion → Prop
  | nothing : commandWord line = "" → Answers shell state line .nothing
  | bell {names : List String} : commandWord line ≠ "" →
      shell.candidates state (commandWord line) = .ok names →
      Answers shell state line (.bell (commandWord line) names)
  | list {names : List String} : commandWord line ≠ "" →
      shell.candidates state (commandWord line) = .ok names →
      Answers shell state line (.list (commandWord line) names)
  | replace {names : List String} {replacement : String} : commandWord line ≠ "" →
      shell.candidates state (commandWord line) = .ok names →
      Extends (commandWord line) names replacement →
      Answers shell state line (.replace (commandWord line) replacement names)

theorem answers_of_complete {engine : Engine} {line : String} {completion : Completion}
    (h : (shell.complete state engine line).1 = .ok completion) :
    Answers shell state line completion := by
  by_cases hword : commandWord line = ""
  · rw [Engine.complete_of_eq_empty engine hword] at h
    obtain rfl := Except.ok.inj h
    exact .nothing hword
  cases hnames : shell.candidates state (commandWord line) with
  | error fault =>
    rw [Engine.complete_of_error engine hword hnames] at h
    contradiction
  | ok names =>
    rw [Engine.complete_of_names engine hword hnames] at h
    cases hprospect : prospect (commandWord line) names with
    | hopeless =>
      rw [hprospect] at h
      obtain rfl := Except.ok.inj h
      exact .bell hword hnames
    | longer replacement =>
      rw [hprospect] at h
      obtain rfl := Except.ok.inj h
      exact .replace hword hnames (extends_of_prospect (begins_of_candidates hnames) hprospect)
    | stuck =>
      rw [hprospect] at h
      obtain rfl := Except.ok.inj h
      split_ifs
      · exact .bell hword hnames
      · exact .list hword hnames

/-- The engine remembers the line that its completion leaves. -/
theorem lastLine_complete {engine : Engine} {line : String} {completion : Completion}
    (h : (shell.complete state engine line).1 = .ok completion) :
    (shell.complete state engine line).2.lastLine = some (completion.apply line) := by
  by_cases hword : commandWord line = ""
  · rw [Engine.complete_of_eq_empty engine hword] at h ⊢
    obtain rfl := Except.ok.inj h
    rfl
  cases hnames : shell.candidates state (commandWord line) with
  | error fault =>
    rw [Engine.complete_of_error engine hword hnames] at h
    contradiction
  | ok names =>
    rw [Engine.complete_of_names engine hword hnames] at h ⊢
    cases hprospect : prospect (commandWord line) names with
    | hopeless | longer replacement =>
      rw [hprospect] at h
      obtain rfl := Except.ok.inj h
      rfl
    | stuck =>
      rw [hprospect] at h
      obtain rfl := Except.ok.inj h
      dsimp only
      split_ifs <;> rfl

/-- **A completion edits the first word.** Whatever was pressed before: if something is put in, the
line is made of blanks, the word, and something that does not go on with it, the completed line has
the replacement between the same two ends, and the replacement goes on from the word, being the only
name that fits and a space, or what several of them have in common. All other answers leave the line
as it is. The names that an answer gives are those that fit the word, and there is nothing to
complete exactly in a blank line. -/
theorem complete_edits_first_word (shell : Shell) (state : State) (engine : Engine)
    (line : String) :
    let answer := (shell.complete state engine line).1
    (∀ word replacement names, answer = .ok (.replace word replacement names) →
      Extends word names replacement ∧ ∃ before after, StandsFirst before word.toList after ∧
        line = String.ofList (before ++ word.toList ++ after) ∧
        (Completion.replace word replacement names).apply line
          = String.ofList (before ++ replacement.toList ++ after)) ∧
    (∀ completion, answer = .ok completion →
      (∀ word replacement names, completion ≠ .replace word replacement names) →
        completion.apply line = line) ∧
    (∀ completion, answer = .ok completion → completion ≠ .nothing →
      completion.word = commandWord line ∧
        shell.candidates state completion.word = .ok completion.candidates) ∧
    (answer = .ok .nothing ↔ ∀ c ∈ line.toList, Text.isBlank c = true) := by
  intro answer
  refine ⟨fun word replacement names hanswer ↦ ?_, fun completion hanswer hother ↦ ?_,
    fun completion hanswer hsome ↦ ?_, ?_⟩
  · obtain - | - | - | ⟨hword, -, hextends⟩ := answers_of_complete hanswer
    obtain ⟨before, after, hline, hfirst⟩ := exists_standsFirst hword
    refine ⟨hextends, before, after, hfirst, ?_, ?_⟩
    · rw [← hline, String.ofList_toList]
    · rw [Completion.apply, hline, hfirst.replaceFirst_eq]
  · cases completion with
    | nothing | bell | list => rfl
    | replace word replacement names => exact absurd rfl (hother word replacement names)
  · cases answers_of_complete hanswer with
    | nothing => exact absurd rfl hsome
    | bell _ hnames | list _ hnames | replace _ hnames => exact ⟨rfl, hnames⟩
  · rw [← commandWord_eq_empty_iff]
    constructor
    · intro hanswer
      cases answers_of_complete hanswer with
      | nothing hblank => exact hblank
    · intro hblank
      exact congrArg Prod.fst (Engine.complete_of_eq_empty engine hblank)

/-- A word between blanks that recurs in its line. -/
theorem complete_edits_where_word_recurs :
    let shell : Shell := { launcher := fun host _ ↦ (.ok {}, host) }
    let state : State := { session := { cwd := "/", searchPath := [], home := "/" } }
    let line := "\u2003 ec -n ec"
    let completion : Completion := .replace "ec" "echo " ["echo"]
    (shell.complete state {} line).1 = .ok completion ∧ Extends "ec" ["echo"] "echo " ∧
      ∃ before after, StandsFirst before "ec".toList after ∧
        line = String.ofList (before ++ "ec".toList ++ after) ∧
        completion.apply line = String.ofList (before ++ "echo ".toList ++ after) := by
  intro shell state line completion
  have hanswer : (shell.complete state {} line).1 = .ok completion := by decide
  exact ⟨hanswer, (complete_edits_first_word shell state {} line).1 "ec" "echo " ["echo"] hanswer⟩

end Shell

end LineShell
