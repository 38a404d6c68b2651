import LineShell.Process.Basic

/-!
# Programs and their interpreters

What the system does with a file that is to be run. A file may begin with a line that names the
program which interprets it, and that program may be such a file again; so a path leads to a program
of the machine in several steps, on each of which the arguments change. The system takes only a few
of them.

The system looks at no more than the start of a file. A line that goes on beyond it must at least
show where the name ends.
-/

namespace LineShell

namespace Program

/-- How many bytes of a file the system looks at. -/
def headerLength : Nat := 256

/-- Whether a character separates the name of an interpreter from its argument. -/
def isGap (c : Char) : Bool :=
  c == ' ' || c == '\t'

/-- The interpreter in a line, and its argument, if the name is there. -/
def splitLine (line : List Char) : String × Option String :=
  let name := line.takeWhile fun c ↦ !isGap c && c != '\x00'
  let argument? := match line.drop name.length with
    | [] | '\x00' :: _ => none
    | rest =>
      match rest.dropWhile isGap with
      | [] => none
      | argument => some (String.ofList (argument.takeWhile (· != '\x00')))
  (String.ofList name, argument?)

/-- A line without the gaps at its ends. -/
def trimLine (line : List Char) : List Char :=
  ((line.reverse.dropWhile isGap).reverse).dropWhile isGap

/-- The interpreter that the first line of a file names, and the argument that may follow it. A file
that ends before the header is as if zeros followed. -/
def interpreter? (content : Bytes) : Option (String × Option String) :=
  let bytes := content.take headerLength
  let padded := bytes ++ List.replicate (headerLength - bytes.length) 0
  match (Octets.ofBytes padded).toList with
  | '#' :: '!' :: rest =>
    let line := rest.takeWhile fun c ↦ c != '\n' && c != '\x00'
    if rest.drop line.length |>.head? |>.any (· == '\n') then
      let line := trimLine line
      if line.isEmpty then none else some (splitLine line)
    else
      let named := rest.dropWhile isGap
      let isWhole := named.any fun c ↦ isGap c || c == '\x00'
      let line := trimLine rest.dropLast
      if isWhole && !line.isEmpty then some (splitLine line) else none
  | _ => none

/-- How many programs may stand behind each other, so that each is interpreted by the next. -/
def maxInterpreters : Nat := 6

/-- The program of the machine that a path leads to, and its arguments, where so many programs may
still be asked for. -/
def find (tree : FileTree) (here : Place) :
    Nat → String → List String → Except FileError (String × List String)
  | 0, _, _ => .error .tooManyLinks
  | steps + 1, path, argv => do
    match ← tree.stat here (Octets.toText path) with
    | .program program => return (program, argv)
    | .file content true =>
      match interpreter? content with
      | none => throw .notExecutable
      | some (name, argument?) =>
        find tree here steps name (name :: argument?.toList ++ path :: argv.tail)
    | _ => throw .permissionDenied

end Program

end LineShell
