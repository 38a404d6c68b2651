import LineShell.Text.Utf8

/-!
# Output

The two streams that a command writes to, what it may write, and the two ways to write to a file.
Commands that are part of the shell produce text, processes produce bytes; both can go to the
terminal, which shows text, and to a file, which holds bytes.
-/

namespace LineShell

/-- The output streams of a command. -/
inductive Stream where
  | stdout
  | stderr
  deriving DecidableEq, Repr

/-- What happens to the contents that a target file has. -/
inductive WriteMode where
  /-- The file is emptied first. -/
  | truncate
  /-- New output goes after the old contents. -/
  | append
  deriving DecidableEq, Repr

/-- What is written in one go. -/
inductive Output where
  | text (content : String)
  | bytes (content : Bytes)
  deriving DecidableEq, Repr

namespace Output

/-- Whether there is nothing to write. -/
def isEmpty : Output → Bool
  | .text content => content.isEmpty
  | .bytes content => content.isEmpty

/-- What a file receives. -/
def toBytes : Output → Bytes
  | .text content => Utf8.encode content
  | .bytes content => content

/-- What the terminal shows. -/
def toText : Output → String
  | .text content => content
  | .bytes content => Utf8.decode content

end Output

end LineShell
