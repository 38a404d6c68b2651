import LineShell.Completion

/-!
# The line editor

How completion reaches the user while a line is typed. The line editor owns the line and asks at
every press of the completion key for the text to put in the place of the word under the cursor. It
asks again and again, numbering its questions, until it gets no answer; only the first question is
answered. Bells and listings go to the terminal directly, and after a listing the prompt and the
line are shown once more.

Only the first word of a line is completed: a word with anything but blanks before it is left alone.
-/

namespace LineShell

/-- A press of the completion key, as the line editor tells of it. -/
structure Press where
  /-- The whole line. -/
  buffer : String
  /-- Where the word under the cursor begins; a negative position counts from the end. -/
  start : Int := 0
  /-- The number of the question. -/
  question : Int := 0
  deriving DecidableEq, Repr

/-- What stands before a position; a negative position counts from the end. -/
def textBefore (cs : List Char) (position : Int) : List Char :=
  if position < 0 then cs.take (cs.length + position).toNat else cs.take position.toNat

/-- Whether a press is about a word that is not the first of its line. -/
def Press.isPastCommand (press : Press) : Bool :=
  (textBefore press.buffer.toList press.start).any fun c ↦ !Text.isBlank c

/-- What the line editor is told when completion is set up. -/
inductive EditorSetting where
  /-- The shell answers the questions. -/
  | completer
  /-- The characters between words. -/
  | delimiters (characters : String)
  /-- A key and what it does. -/
  | binding (text : String)
  deriving DecidableEq, Repr

/-- The settings that completion needs. -/
def editorSettings : List EditorSetting :=
  [.completer, .delimiters " \t\n", .binding "tab: complete"]

/-- Completion at a prompt. -/
structure LineEditor where
  prompt : String
  engine : Engine := {}
  deriving DecidableEq, Repr

namespace LineEditor

/-- The character that rings the bell. -/
def bell : String := "\x07"

/-- A listing of names under the line, and the line again. -/
def listing (prompt buffer : String) (names : List String) : String :=
  "\n" ++ "  ".intercalate names ++ "\n" ++ prompt ++ buffer

/-- What a completion shows. -/
def shown (prompt buffer : String) : Completion → String
  | .bell _ _ => bell
  | .list _ names => listing prompt buffer names
  | _ => ""

/-- What a completion answers. -/
def answer : Completion → Option String
  | .replace _ replacement _ => some replacement
  | _ => none

/-- Answer a press. -/
def press (editor : LineEditor) (shell : Shell) (state : State) (press : Press) :
    Except Fault (Option String) × LineEditor × State :=
  if press.question ≠ 0 ∨ press.isPastCommand then (.ok none, editor, state)
  else
    let (outcome, engine) := shell.complete state editor.engine press.buffer
    let editor := { editor with engine }
    match outcome with
    | .error fault => (.error fault, editor, state)
    | .ok completion =>
      let output := .text (shown editor.prompt press.buffer completion)
      (.ok (answer completion), editor,
        { state with terminal := state.terminal.display .stdout output })

end LineEditor

end LineShell
