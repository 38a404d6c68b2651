/-!
# Escapes

A backslash and what follows it, as printing commands read them. All agree on the letters for
control characters and on octal digits; they differ in whether hexadecimal digits, a double quote
and an early end have an escape, and in whether a zero may stand in front of three octal digits.
-/

namespace LineShell.Utility

/-- Which escapes there are besides those that are common to all. -/
structure EscapeRules where
  /-- A zero in front of octal digits is none of them. -/
  zeroFirst : Bool
  /-- There is an escape that ends all output. -/
  stops : Bool
  hexadecimal : Bool
  /-- A number must follow the letter for hexadecimal digits. -/
  demandsDigits : Bool
  /-- A double quote may be escaped. -/
  quotes : Bool
  deriving DecidableEq, Repr

/-- What an escape stands for. -/
inductive Escape where
  | text (chars rest : List Char)
  | stop
  /-- Digits are missing. -/
  | broken
  deriving DecidableEq, Repr

/-- The value of a digit. -/
def digitValue (c : Char) : Nat :=
  if c.isDigit then c.toNat - '0'.toNat else c.toLower.toNat - 'a'.toNat + 10

/-- The value of digits. -/
def digitsValue (base : Nat) (digits : List Char) : Nat :=
  digits.foldl (fun number c ↦ base * number + digitValue c) 0

/-- At most so many digits, and what follows them. -/
def takeDigits (isDigit : Char → Bool) (count : Nat) (cs : List Char) : List Char × List Char :=
  let digits := (cs.take count).takeWhile isDigit
  (digits, cs.drop digits.length)

/-- Whether a character is an octal digit. -/
def isOctal (c : Char) : Bool :=
  '0' ≤ c && c ≤ '7'

/-- Whether a character is a hexadecimal digit. -/
def isHexadecimal (c : Char) : Bool :=
  c.isDigit || 'a' ≤ c.toLower && c.toLower ≤ 'f'

/-- The characters that letters stand for after a backslash. -/
def controls : List (Char × Char) :=
  [('a', '\x07'), ('b', '\x08'), ('e', '\x1b'), ('f', '\x0c'), ('n', '\n'), ('r', '\x0d'),
    ('t', '\t'), ('v', '\x0b'), ('\\', '\\')]

/-- What follows a backslash. -/
def readEscape (rules : EscapeRules) (cs : List Char) : Escape :=
  match cs with
  | [] => .text ['\\'] []
  | c :: rest =>
    match controls.find? fun entry ↦ entry.1 = c with
    | some (_, control) => .text [control] rest
    | none =>
      if isOctal c then
        let start := if rules.zeroFirst && c == '0' then rest else cs
        let (digits, rest) := takeDigits isOctal 3 start
        .text [Char.ofNat (digitsValue 8 digits % 256)] rest
      else if c = 'c' && rules.stops then .stop
      else if c = '"' && rules.quotes then .text ['"'] rest
      else if c = 'x' && rules.hexadecimal then
        match takeDigits isHexadecimal 2 rest with
        | ([], rest) => if rules.demandsDigits then .broken else .text ['\\', 'x'] rest
        | (digits, rest) => .text [Char.ofNat (digitsValue 16 digits)] rest
      else .text ['\\', c] rest

/-- How a text with escapes ends. -/
inductive TextEnd where
  | complete
  | stopped
  | broken
  deriving DecidableEq, Repr

/-- A text with its escapes replaced, after a reversed text. It takes at most one step per
character. -/
def unescapeFrom (rules : EscapeRules) : Nat → List Char → List Char → List Char × TextEnd
  | 0, _, done | _, [], done => (done.reverse, .complete)
  | steps + 1, '\\' :: rest, done =>
    match readEscape rules rest with
    | .text chars rest => unescapeFrom rules steps rest (chars.reverse ++ done)
    | .stop => (done.reverse, .stopped)
    | .broken => (done.reverse, .broken)
  | steps + 1, c :: rest, done => unescapeFrom rules steps rest (c :: done)

/-- A text with its escapes replaced, and how it ends. -/
def unescape (rules : EscapeRules) (text : String) : String × TextEnd :=
  let (chars, ending) := unescapeFrom rules (text.length + 1) text.toList []
  (String.ofList chars, ending)

end LineShell.Utility
