import LineShell.Shell.State
import LineShell.Text.Blank

/-!
# Completion of command names

The first word of a line is completed to the name of a command of the shell or of an entry of a
directory on the search path. One name that fits is put in with a space after it; several that go on
alike are put in as far as they do. If the word cannot be made longer, the first press of the
completion key rings the bell and every further one on the same line lists the names.

`Engine` is what is remembered between presses: how many presses in a row were stuck, and the line
that the last press left. A press on any other line starts the count again.
-/

namespace LineShell

/-! ## Common beginnings -/

/-- The longest common beginning of two texts. -/
def commonPrefix : List Char → List Char → List Char
  | a :: as, b :: bs => if a = b then a :: commonPrefix as bs else []
  | _, _ => []

theorem commonPrefix_left (as bs : List Char) : commonPrefix as bs <+: as := by
  induction as generalizing bs with
  | nil => simp [commonPrefix]
  | cons a as ih =>
    cases bs with
    | nil => simp [commonPrefix]
    | cons b bs =>
      rw [commonPrefix]
      split
      · exact (List.prefix_cons_inj a).mpr (ih bs)
      · exact List.nil_prefix

theorem commonPrefix_right (as bs : List Char) : commonPrefix as bs <+: bs := by
  induction as generalizing bs with
  | nil => simp [commonPrefix]
  | cons a as ih =>
    cases bs with
    | nil => simp [commonPrefix]
    | cons b bs =>
      rw [commonPrefix]
      split
      case isTrue h => subst h; exact (List.prefix_cons_inj a).mpr (ih bs)
      case isFalse => exact List.nil_prefix

/-- The longest common beginning of the words of a list. A list without words has the empty one. -/
def longestCommonPrefix : List String → String
  | [] => ""
  | word :: rest =>
    String.ofList (rest.foldl (fun common other ↦ commonPrefix common other.toList) word.toList)

/-! ## Names that fit -/

/-- The word of a line that is completed: the first one, or none. -/
def commandWord (line : String) : String :=
  String.ofList (Text.firstWord line.toList)

/-- Whether a name begins with a text. -/
def fits (start name : String) : Bool :=
  start.toList.isPrefixOf name.toList

/-- The entries of the first directories on a search path. A directory that cannot be listed has
none. -/
def entriesOf (host : Host) : List String → Except Fault (List String)
  | [] => .ok []
  | directory :: rest =>
    match host.list directory with
    | .ok names => (entriesOf host rest).map (names ++ ·)
    | .error (.file _) => entriesOf host rest
    | .error .hasNul => .error .hasNul

/-- The names that a beginning can be completed to, in order. -/
def candidates (commands : List String) (host : Host) (session : Session) (start : String) :
    Except Fault (List String) :=
  (entriesOf host session.searchDirs).map fun entries ↦
    Names.ofList ((commands ++ entries).filter (fits start))

/-! ## Completions -/

/-- What a press of the completion key leads to. -/
inductive Completion where
  /-- There is no word to complete. -/
  | nothing
  /-- Ring the bell: no name fits, or several do. -/
  | bell (word : String) (candidates : List String)
  /-- Put something in the place of the word. -/
  | replace (word replacement : String) (candidates : List String)
  /-- Show the names that fit. -/
  | list (word : String) (candidates : List String)
  deriving DecidableEq, Repr

/-- What stands before and after the first occurrence of a word in a text. -/
def around? (word : List Char) : List Char → Option (List Char × List Char)
  | [] => if word = [] then some ([], []) else none
  | c :: rest =>
    if word.isPrefixOf (c :: rest) then some ([], (c :: rest).drop word.length)
    else (around? word rest).map fun (before, after) ↦ (c :: before, after)

/-- A text with something else in the place of the first occurrence of a word. A word that does not
occur counts as one that begins at the last character on the left side, and one character before
the text on the right side. -/
def replaceFirst (word replacement line : List Char) : List Char :=
  match around? word line with
  | some (before, after) => before ++ replacement ++ after
  | none => line.dropLast ++ replacement ++ line.drop (word.length - 1)

namespace Completion

/-- The line that a completion leaves. -/
def apply (completion : Completion) (line : String) : String :=
  match completion with
  | .replace word replacement _ =>
    String.ofList (replaceFirst word.toList replacement.toList line.toList)
  | _ => line

/-- The word that a completion is about. -/
def word : Completion → String
  | .nothing => ""
  | .bell word _ | .replace word _ _ | .list word _ => word

/-- What a completion puts in the place of the word. -/
def replacement : Completion → String
  | .replace _ replacement _ => replacement
  | _ => ""

/-- The names that a completion found. -/
def candidates : Completion → List String
  | .nothing => []
  | .bell _ candidates | .replace _ _ candidates | .list _ candidates => candidates

end Completion

/-! ## Presses -/

/-- What can be done about a word, given the names that fit. -/
inductive Prospect where
  /-- No name fits. -/
  | hopeless
  /-- The word can be replaced by something longer. -/
  | longer (replacement : String)
  /-- Several names fit, and they go on differently. -/
  | stuck
  deriving DecidableEq, Repr

/-- What can be done about a word, given the names that fit. -/
def prospect (word : String) : List String → Prospect
  | [] => .hopeless
  | [name] => .longer (name ++ " ")
  | names =>
    let common := longestCommonPrefix names
    if word.length < common.length then .longer common else .stuck

/-- What is remembered between two presses. -/
structure Engine where
  /-- How many presses in a row were stuck. -/
  presses : Nat := 0
  /-- The line that the last press left. -/
  lastLine : Option String := none
  deriving DecidableEq, Repr

namespace Engine

/-- The stuck presses that count for a line. -/
def pressesOn (engine : Engine) (line : String) : Nat :=
  if engine.lastLine = some line then engine.presses else 0

/-- Complete a line, given how names are looked up. If that fails, the count is right for the line
already but the line is not remembered. -/
def complete (lookup : String → Except Fault (List String)) (engine : Engine) (line : String) :
    Except Fault Completion × Engine :=
  let word := commandWord line
  let presses := engine.pressesOn line
  if word.isEmpty then (.ok .nothing, ⟨presses, some line⟩)
  else match lookup word with
    | .error fault => (.error fault, { engine with presses })
    | .ok names =>
      match prospect word names with
      | .hopeless => (.ok (.bell word names), ⟨presses, some line⟩)
      | .longer replacement =>
        let completion : Completion := .replace word replacement names
        (.ok completion, ⟨0, some (completion.apply line)⟩)
      | .stuck =>
        let completion : Completion := if presses = 0 then .bell word names else .list word names
        (.ok completion, ⟨presses + 1, some line⟩)

end Engine

/-- The names that a beginning can be completed to in a shell. -/
def Shell.candidates (shell : Shell) (state : State) (start : String) :
    Except Fault (List String) :=
  LineShell.candidates shell.commands.names state.host state.session start

/-- Complete a line in a shell. -/
def Shell.complete (shell : Shell) (state : State) (engine : Engine) (line : String) :
    Except Fault Completion × Engine :=
  engine.complete (shell.candidates state) line

end LineShell
