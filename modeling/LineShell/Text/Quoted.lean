import LineShell.Text.Printable

/-!
# Quoted text

How a message quotes a text that a user gave, so that its ends and its invisible characters can be
seen. The text stands between single quotes, or between double quotes if it holds a single quote
and no double one; backslashes, the enclosing quote and characters that do not print are escaped.
-/

namespace LineShell.Text

/-- The digit that stands for a value below sixteen. -/
def hexDigit (value : Nat) : Char :=
  if value < 10 then Char.ofNat (0x30 + value) else Char.ofNat (0x61 + value - 10)

/-- The last `width` hexadecimal digits of a number. -/
def hexDigits : Nat → Nat → List Char
  | 0, _ => []
  | width + 1, number => hexDigits width (number / 16) ++ [hexDigit (number % 16)]

/-- The escape for a character that does not print: the shortest of the three lengths that can
hold its code point. -/
def codeEscape (c : Char) : List Char :=
  let number := c.toNat
  if number ≤ 0xFF then '\\' :: 'x' :: hexDigits 2 number
  else if number ≤ 0xFFFF then '\\' :: 'u' :: hexDigits 4 number
  else '\\' :: 'U' :: hexDigits 8 number

/-- One character between quotes. -/
def escape (quote : Char) (c : Char) : List Char :=
  if c = quote ∨ c = '\\' then ['\\', c]
  else match c with
    | '\t' => ['\\', 't']
    | '\n' => ['\\', 'n']
    | '\r' => ['\\', 'r']
    | c => if isPrintable c then [c] else codeEscape c

/-- The quote that encloses a text. -/
def enclosingQuote (cs : List Char) : Char :=
  if cs.contains '\'' && !cs.contains '"' then '"' else '\''

/-- A text between quotes. -/
def quoted (text : String) : String :=
  let quote := enclosingQuote text.toList
  String.ofList (quote :: text.toList.flatMap (escape quote) ++ [quote])

end LineShell.Text
