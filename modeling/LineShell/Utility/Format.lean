/-!
# Formatted values

How a conversion of a format writes a value: a width, a precision and flags decide about signs,
leading zeros and blanks. Numbers with a fraction are rounded to the binary precision of the
program first, and then written with as many digits as the conversion asks for; ties go to the even
neighbour in both steps.
-/

namespace LineShell.Utility

/-- A conversion: its flags, its width and precision, and its letter. -/
structure Conversion where
  flags : List Char := []
  width : Int := 0
  precision : Option Nat := none
  letter : Char
  deriving DecidableEq, Repr

namespace Conversion

/-- Whether a flag is set. -/
def has (conversion : Conversion) (flag : Char) : Bool :=
  flag ∈ conversion.flags

/-- Fill a text up to the width. Zeros go between the sign in front and the rest. -/
def fill (conversion : Conversion) (zeros : Bool) (sign body : String) : String :=
  let isLeft := conversion.has '-' || conversion.width < 0
  let missing := conversion.width.natAbs - (sign.length + body.length)
  if isLeft then sign ++ body ++ String.ofList (List.replicate missing ' ')
  else if zeros && conversion.has '0' then
    sign ++ String.ofList (List.replicate missing '0') ++ body
  else String.ofList (List.replicate missing ' ') ++ sign ++ body

/-- A text. -/
def text (conversion : Conversion) (value : String) : String :=
  let shown := match conversion.precision with
    | some count => String.ofList (value.toList.take count)
    | none => value
  conversion.fill false "" shown

/-- The sign that is written in front of a number. -/
def sign (conversion : Conversion) (isNegative : Bool) : String :=
  if isNegative then "-" else if conversion.has '+' then "+"
  else if conversion.has ' ' then " " else ""

/-- Digits with zeros in front up to the precision. A zero with no precision at all is empty. -/
def extend (conversion : Conversion) (digits : String) : String :=
  match conversion.precision with
  | none => digits
  | some count =>
    if count = 0 && digits = "0" then ""
    else String.ofList (List.replicate (count - digits.length) '0') ++ digits

/-- An integer with a sign. -/
def signed (conversion : Conversion) (value : Int) : String :=
  conversion.fill conversion.precision.isNone (conversion.sign (value < 0))
    (conversion.extend (toString value.natAbs))

/-- The digits of a number in a base. -/
def digits (base number : Nat) (upper : Bool) : String :=
  let digits := Nat.toDigits base number
  String.ofList (if upper then digits.map Char.toUpper else digits)

/-- An integer without a sign, in the base that the letter names. -/
def unsigned (conversion : Conversion) (value : Nat) : String :=
  let isMarked := conversion.has '#' && value ≠ 0
  let fill := conversion.fill conversion.precision.isNone
  match conversion.letter with
  | 'o' =>
    let body := conversion.extend (digits 8 value false)
    fill "" (if conversion.has '#' && body.toList.head? != some '0' then "0" ++ body else body)
  | 'x' => fill (if isMarked then "0x" else "") (conversion.extend (digits 16 value false))
  | 'X' => fill (if isMarked then "0X" else "") (conversion.extend (digits 16 value true))
  | _ => fill "" (conversion.extend (toString value))

end Conversion

/-! ## Fractions -/

/-- A number that is not negative, as a quotient. -/
structure Fraction where
  numerator : Nat
  denominator : Nat
  deriving DecidableEq, Repr

namespace Fraction

/-- The quotient rounded to an integer; a tie goes to the even one. -/
def round (value : Fraction) : Nat :=
  let quotient := value.numerator / value.denominator
  let rest := 2 * (value.numerator % value.denominator)
  if value.denominator < rest || value.denominator == rest && quotient % 2 == 1 then quotient + 1
  else quotient

/-- The quotient multiplied by a power of a base. -/
def scale (value : Fraction) (base : Nat) (exponent : Int) : Fraction :=
  if 0 ≤ exponent then { value with numerator := value.numerator * base.pow exponent.toNat }
  else { value with denominator := value.denominator * base.pow (-exponent).toNat }

/-- The number rounded to so many binary digits. -/
def toPrecision (bits : Nat) (value : Fraction) : Fraction :=
  if value.numerator = 0 then value
  else
    let guess : Int := value.numerator.log2 - value.denominator.log2
    let isBelow := (value.scale 2 (-guess)).numerator < (value.scale 2 (-guess)).denominator
    let exponent := if isBelow then guess - 1 else guess
    let shift : Int := exponent - (bits - 1 : Nat)
    Fraction.scale ⟨(value.scale 2 (-shift)).round, 1⟩ 2 shift

/-- Digits with a point in front of the last so many of them. -/
def placePoint (digits : String) (places : Nat) (always : Bool) : String :=
  let missing := places + 1 - digits.length
  let padded := List.replicate missing '0' ++ digits.toList
  let whole := String.ofList (padded.take (padded.length - places))
  if places = 0 then if always then whole ++ "." else whole
  else whole ++ "." ++ String.ofList (padded.drop (padded.length - places))

/-- The number with so many places. -/
def fixed (value : Fraction) (places : Nat) (always : Bool) : String :=
  placePoint (toString (value.scale 10 places).round) places always

/-- The exponent of the first decimal digit, found by going up or down from a guess. -/
def exponentFrom (value : Fraction) : Nat → Int → Int
  | 0, guess => guess
  | steps + 1, guess =>
    let scaled := value.scale 10 (-guess)
    if scaled.numerator < scaled.denominator then exponentFrom value steps (guess - 1)
    else if 10 * scaled.denominator ≤ scaled.numerator then exponentFrom value steps (guess + 1)
    else guess

/-- The digits of a number, one in front of the point and so many after it, and the exponent. -/
def leading (value : Fraction) (places : Nat) : Nat × Int :=
  if value.numerator = 0 then (0, 0)
  else
    let guess : Int :=
      (toString value.numerator).length - (toString value.denominator).length
    let exponent := exponentFrom value 4 guess
    let digits := (value.scale 10 (places - exponent)).round
    if Nat.pow 10 (places + 1) ≤ digits then (digits / 10, exponent + 1) else (digits, exponent)

/-- The text of an exponent, which has at least two digits. -/
def exponentText (exponent : Int) (upper : Bool) : String :=
  let digits := toString exponent.natAbs
  (if upper then "E" else "e") ++ (if exponent < 0 then "-" else "+")
    ++ (if digits.length < 2 then "0" ++ digits else digits)

/-- The number with an exponent. -/
def scientific (value : Fraction) (places : Nat) (always upper : Bool) : String :=
  let (digits, exponent) := value.leading places
  placePoint (toString digits) places always ++ exponentText exponent upper

/-- A text with a point in it, without the zeros at its end. -/
def trimZeros (text : String) : String :=
  if '.' ∈ text.toList then
    let trimmed := text.toList.reverse.dropWhile (· == '0')
    String.ofList (if trimmed.head? == some '.' then trimmed.tail else trimmed).reverse
  else text

/-- The number in the shorter of the two ways, with so many digits in all. -/
def general (value : Fraction) (count : Nat) (keeps upper : Bool) : String :=
  let count := max count 1
  let (digits, exponent) := value.leading (count - 1)
  let trim := if keeps then id else trimZeros
  if exponent < -4 || (count : Int) ≤ exponent then
    trim (placePoint (toString digits) (count - 1) keeps) ++ exponentText exponent upper
  else trim (value.fixed ((count : Int) - 1 - exponent).toNat keeps)

end Fraction

/-- A number with a fraction. -/
def Conversion.fractional (conversion : Conversion) (isNegative : Bool) (value : Fraction) :
    String :=
  let places := conversion.precision.getD 6
  let always := conversion.has '#'
  let upper := conversion.letter.isUpper
  let body := match conversion.letter.toLower with
    | 'f' => value.fixed places always
    | 'e' => value.scientific places always upper
    | _ => value.general places always upper
  conversion.fill true (conversion.sign isNegative) body

/-- A decimal number in front of a text: its sign, its value, and what follows it. -/
def readFraction? (cs : List Char) : Option (Bool × Fraction × List Char) :=
  let isNegative := cs.head? == some '-'
  let body := if isNegative || cs.head? == some '+' then cs.tail else cs
  let whole := body.takeWhile Char.isDigit
  let rest := body.dropWhile Char.isDigit
  let (places, rest) := match rest with
    | '.' :: after => (after.takeWhile Char.isDigit, after.dropWhile Char.isDigit)
    | rest => ([], rest)
  if whole.isEmpty && places.isEmpty then none
  else
    let number := (whole ++ places).foldl (fun n c ↦ 10 * n + (c.toNat - '0'.toNat)) 0
    let (exponent, rest) := readExponent rest
    some (isNegative, Fraction.scale ⟨number, 1⟩ 10 (exponent - (places.length : Int)), rest)
where
  /-- An exponent in front of a text, and what follows it. -/
  readExponent (cs : List Char) : Int × List Char :=
    match cs with
    | e :: rest =>
      let isNegative := rest.head? == some '-'
      let digits := if isNegative || rest.head? == some '+' then rest.tail else rest
      if (e == 'e' || e == 'E') && digits.head?.any Char.isDigit then
        let number : Nat :=
          (digits.takeWhile Char.isDigit).foldl (fun n c ↦ 10 * n + (c.toNat - '0'.toNat)) 0
        let number := min number 5000
        (if isNegative then -number else number, digits.dropWhile Char.isDigit)
      else (0, cs)
    | [] => (0, [])

end LineShell.Utility
