import LineShell.Output

/-!
# Redirections

A command line may send the two output streams of its command to files. An operator names the
stream and whether the file is emptied first; it stands alone before its target or is written
together with it. `extract` takes the redirections out of the words after the command and keeps, for
each stream, the last target that the line gives.

An operator without anything after it is not a redirection: it stays among the arguments. So the
words are read in pairs from the left, and whether a word is an operator, a target or an argument
depends on what stands before it (`>` after `>` is a target).
-/

namespace LineShell

namespace Redirection

/-! ## Operators -/

/-- A redirection operator. -/
structure Operator where
  symbol : String
  stream : Stream
  mode : WriteMode
  deriving DecidableEq, Repr

/-- The operators, in the order in which a word is tried against them: a longer operator comes
before those it begins with. -/
def operators : List Operator :=
  [⟨"2>>", .stderr, .append⟩, ⟨"1>>", .stdout, .append⟩, ⟨">>", .stdout, .append⟩,
    ⟨"2>", .stderr, .truncate⟩, ⟨"1>", .stdout, .truncate⟩, ⟨">", .stdout, .truncate⟩]

/-- The operator that a word is, if it is one. -/
def operator? (word : String) : Option Operator :=
  operators.find? fun op ↦ op.symbol = word

/-- Split a word that begins with an operator and goes on after it. -/
def attached? (word : String) : Option (Operator × String) :=
  operators.findSome? fun op ↦
    let symbol := op.symbol.toList
    let target := word.toList.drop symbol.length
    if symbol.isPrefixOf word.toList ∧ target ≠ [] then some (op, String.ofList target) else none

/-- A redirection found at the start of a list of words. -/
structure Found where
  operator : Operator
  target : String
  /-- How many words it takes up. -/
  consumed : Nat
  deriving DecidableEq, Repr

/-- The redirection that a word begins, given the words after it. -/
def leading? (word : String) (rest : List String) : Option Found :=
  match operator? word, rest with
  | some op, target :: _ => some ⟨op, target, 2⟩
  | some _, [] => none
  | none, _ => (attached? word).map fun (op, target) ↦ ⟨op, target, 1⟩

/-- The ways in which words cannot be looked at. -/
inductive LookupError where
  /-- There is no word at that position. -/
  | outOfRange
  deriving DecidableEq, Repr

/-- What the user is told. -/
def LookupError.message : LookupError → String
  | .outOfRange => "list index out of range"

/-- The redirection that begins at a position in a list of words. -/
def foundAt? (words : List String) (position : Nat) : Except LookupError (Option Found) :=
  match words.drop position with
  | [] => .error .outOfRange
  | word :: rest => .ok (leading? word rest)

/-! ## Plans -/

/-- A file that output goes to. -/
structure Target where
  path : String
  mode : WriteMode
  deriving DecidableEq, Repr

/-- How the streams of a process are connected. -/
inductive Stdio where
  | inheritAll
  | captureStdout
  | captureStderr
  | captureBoth
  deriving DecidableEq, Repr

/-- Whether a stream is captured. -/
def Stdio.captures : Stdio → Stream → Bool
  | .captureBoth, _ => true
  | .captureStdout, .stdout => true
  | .captureStderr, .stderr => true
  | _, _ => false

/-- Where the output of a command goes; a stream without a target goes to the terminal. -/
structure Plan where
  stdout : Option Target := none
  stderr : Option Target := none
  deriving DecidableEq, Repr

namespace Plan

/-- The target of a stream. -/
def target? (plan : Plan) : Stream → Option Target
  | .stdout => plan.stdout
  | .stderr => plan.stderr

/-- The targets that are present, the one of the standard output first. -/
def targets (plan : Plan) : List Target :=
  plan.stdout.toList ++ plan.stderr.toList

/-- How a process must be connected so that the plan can be followed. -/
def stdio (plan : Plan) : Stdio :=
  match plan.stdout, plan.stderr with
  | some _, some _ => .captureBoth
  | some _, none => .captureStdout
  | none, some _ => .captureStderr
  | none, none => .inheritAll

/-- Add a redirection that stands before all others: it counts only if the stream has no target
further to the right. -/
def addEarlier (plan : Plan) (op : Operator) (path : String) : Plan :=
  match op.stream with
  | .stdout => { plan with stdout := plan.stdout <|> some ⟨path, op.mode⟩ }
  | .stderr => { plan with stderr := plan.stderr <|> some ⟨path, op.mode⟩ }

/-- A stream is captured exactly when it has a target. -/
theorem captures_stdio (plan : Plan) (stream : Stream) :
    plan.stdio.captures stream = (plan.target? stream).isSome := by
  rcases plan with ⟨_ | _, _ | _⟩ <;> cases stream <;> rfl

end Plan

/-! ## Extraction -/

/-- Take the redirections out of the words that follow a command: the words that are left, in
order, and where the streams go. -/
def extract : List String → List String × Plan
  | [] => ([], {})
  | [word] =>
    match operator? word, attached? word with
    | none, some (op, path) => ([], Plan.addEarlier {} op path)
    | _, _ => ([word], {})
  | word :: next :: rest =>
    match operator? word with
    | some op =>
      let (args, plan) := extract rest
      (args, plan.addEarlier op next)
    | none =>
      let (args, plan) := extract (next :: rest)
      match attached? word with
      | some (op, path) => (args, plan.addEarlier op path)
      | none => (word :: args, plan)

@[simp] theorem extract_nil : extract [] = ([], {}) := rfl

/-- A word that begins no redirection is an argument. -/
theorem extract_cons_of_leading_eq_none {word : String} {rest : List String}
    (h : leading? word rest = none) :
    extract (word :: rest) = (word :: (extract rest).1, (extract rest).2) := by
  cases rest with
  | nil =>
    cases hop : operator? word <;> cases hat : attached? word <;>
      simp_all [leading?, extract]
  | cons next rest =>
    cases hop : operator? word <;> cases hat : attached? word <;>
      simp_all [leading?, extract]

/-- A redirection goes into the plan, behind those that follow it. -/
theorem extract_cons_of_leading {word : String} {rest : List String} {found : Found}
    (h : leading? word rest = some found) :
    extract (word :: rest) =
      ((extract (rest.drop (found.consumed - 1))).1,
        (extract (rest.drop (found.consumed - 1))).2.addEarlier found.operator found.target) := by
  cases rest with
  | nil =>
    cases hop : operator? word <;> cases hat : attached? word <;>
      simp_all [leading?, extract]
    all_goals
      subst h
      simp
  | cons next rest =>
    cases hop : operator? word <;> cases hat : attached? word <;>
      simp_all [leading?, extract]
    all_goals
      subst h
      simp

end Redirection

end LineShell
