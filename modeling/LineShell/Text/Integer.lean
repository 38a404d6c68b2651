import LineShell.Text.Blank

/-!
# Reading integers

The grammar of an integer as a user may write it: blanks around it do not count, one sign may stand
in front, the digits may come from any script that has decimal digits, and single underscores may
separate digits. A text with more than `maxDigits` digits is refused whatever its value, leading
zeros counted and underscores not.
-/

namespace LineShell.Text

/-! ## Decimal digits -/

/-- The code points of the digit zero in the scripts that have decimal digits; the nine code points
after each are the digits one to nine. -/
def digitZeros : List Nat :=
  [0x30, 0x660, 0x6F0, 0x7C0, 0x966, 0x9E6, 0xA66, 0xAE6, 0xB66, 0xBE6, 0xC66, 0xCE6, 0xD66,
    0xDE6, 0xE50, 0xED0, 0xF20, 0x1040, 0x1090, 0x17E0, 0x1810, 0x1946, 0x19D0, 0x1A80, 0x1A90,
    0x1B50, 0x1BB0, 0x1C40, 0x1C50, 0xA620, 0xA8D0, 0xA900, 0xA9D0, 0xA9F0, 0xAA50, 0xABF0,
    0xFF10, 0x104A0, 0x10D30, 0x11066, 0x110F0, 0x11136, 0x111D0, 0x112F0, 0x11450, 0x114D0,
    0x11650, 0x116C0, 0x11730, 0x118E0, 0x11950, 0x11C50, 0x11D50, 0x11DA0, 0x16A60, 0x16AC0,
    0x16B50, 0x1D7CE, 0x1D7D8, 0x1D7E2, 0x1D7EC, 0x1D7F6, 0x1E140, 0x1E2F0, 0x1E950, 0x1FBF0]

/-- The value of a decimal digit of any script. -/
def digitValue? (c : Char) : Option Nat :=
  (digitZeros.find? fun first ↦ first ≤ c.toNat && c.toNat < first + 10).map (c.toNat - ·)

/-- Whether a character is a decimal digit. -/
def isDigit (c : Char) : Bool :=
  (digitValue? c).isSome

/-! ## Digits with underscores -/

/-- The digits that continue a number: each may have one underscore in front. -/
def moreDigits? : List Char → Option (List Nat)
  | [] => some []
  | '_' :: c :: rest => do
    let digit ← digitValue? c
    let others ← moreDigits? rest
    return digit :: others
  | c :: rest => do
    let digit ← digitValue? c
    let others ← moreDigits? rest
    return digit :: others

/-- The digits of a number without its sign. -/
def digits? : List Char → Option (List Nat)
  | [] => none
  | c :: rest => do
    let digit ← digitValue? c
    let others ← moreDigits? rest
    return digit :: others

/-- The number that a list of digits stands for, most significant digit first. -/
def digitsToNat (digits : List Nat) : Nat :=
  digits.foldl (fun number digit ↦ 10 * number + digit) 0

/-! ## Integers -/

/-- The blanks that may stand around an integer: all but the information separators. -/
def isIntegerBlank (c : Char) : Bool :=
  isBlank c && !(0x1C ≤ c.toNat && c.toNat ≤ 0x1F)

/-- The greatest number of digits that is read. -/
def maxDigits : Nat := 4300

/-- The sign in front of a number, and what follows it. -/
def signed : List Char → Int × List Char
  | '+' :: rest => (1, rest)
  | '-' :: rest => (-1, rest)
  | rest => (1, rest)

/-- The integer that a text stands for, if it stands for one. -/
def integer? (text : String) : Option Int := do
  let (sign, body) := signed (trimOf isIntegerBlank text.toList)
  let digits ← digits? body
  if digits.length ≤ maxDigits then return sign * digitsToNat digits else none

end LineShell.Text
