import LineShell.Utility.Basic
import LineShell.Utility.Escape

/-!
# Echo

Arguments, with blanks between them and a line feed after them. The program replaces escapes if an
option asks for it; the command of the interpreter always does.
-/

namespace LineShell.Utility

/-- The escapes of the program. -/
def echoEscapes : EscapeRules where
  zeroFirst := true
  stops := true
  hexadecimal := true
  demandsDigits := false
  quotes := false

/-- The escapes of the interpreter's command. -/
def ownEchoEscapes : EscapeRules :=
  { echoEscapes with hexadecimal := false }

/-- What arguments are printed as. -/
def echoed (rules : Option EscapeRules) (newline : Bool) (args : List String) : String :=
  let text := " ".intercalate args
  let ending := if newline then "\n" else ""
  match rules with
  | none => text ++ ending
  | some rules =>
    match unescape rules text with
    | (text, .stopped) => text
    | (text, _) => text ++ ending

/-- The letters of an argument that consists of nothing but options. -/
def echoOptions? (argument : String) : Option (List Char) :=
  match argument.toList with
  | '-' :: c :: rest => if (c :: rest).all (· ∈ ['n', 'e', 'E']) then some (c :: rest) else none
  | _ => none

/-- Print arguments after the options in front of them. -/
def echoFrom (escaped newline : Bool) : List String → String
  | [] => echoed none newline []
  | argument :: rest =>
    match echoOptions? argument with
    | none => echoed (if escaped then some echoEscapes else none) newline (argument :: rest)
    | some letters =>
      let escaped := letters.foldl (fun escaped c ↦ if c = 'n' then escaped else c == 'e') escaped
      echoFrom escaped (newline && 'n' ∉ letters) rest

/-- Print arguments. -/
def echo : Utility := fun name args ↦
  finish name { stdout := Octets.toBytes (echoFrom false true args) }

/-- What the interpreter's command prints. -/
def ownEcho (args : List String) : String :=
  match args with
  | "-n" :: rest => echoed (some ownEchoEscapes) false rest
  | rest => echoed (some ownEchoEscapes) true rest

end LineShell.Utility
