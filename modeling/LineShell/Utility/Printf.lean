import LineShell.Utility.Basic
import LineShell.Utility.Escape
import LineShell.Utility.Format

/-!
# Printing as a format says

A format is text with escapes and conversions. Each conversion takes an argument, or an empty one if
none is left; the format is used again and again until all arguments are taken. The program and the
command of the interpreter differ in their escapes, in the conversions that they accept, in their
binary precision and in the words of their complaints. A `Dialect` says all of that.
-/

namespace LineShell.Utility

/-- What can go wrong while a format is followed. -/
inductive PrintfProblem where
  | notNumeric (argument : String)
  | notAllNumeric (argument : String)
  | outOfRange (argument : String)
  /-- The format ends inside of a conversion. -/
  | unfinished (conversion : String)
  | unknownConversion (conversion : String)
  | missingDigit
  | excess (argument : String)
  deriving DecidableEq, Repr

/-- How a printing command differs from others. -/
structure Dialect where
  escapes : EscapeRules
  /-- The escapes in an argument. -/
  argumentEscapes : EscapeRules
  /-- The characters that may stand in a conversion without meaning anything. -/
  sizes : List Char
  /-- Whether flags, width and precision are only accepted where they have a meaning. -/
  strict : Bool
  bits : Nat
  message : PrintfProblem → String
  /-- The status after a format that cannot be followed. -/
  failure : Int

/-- The escapes of the program. -/
def printfEscapes : EscapeRules where
  zeroFirst := false
  stops := true
  hexadecimal := true
  demandsDigits := true
  quotes := true

/-- The program. -/
def programDialect : Dialect where
  escapes := printfEscapes
  argumentEscapes := { printfEscapes with zeroFirst := true }
  sizes := ['h', 'l', 'L', 'j', 't', 'z']
  strict := true
  bits := 64
  message
    | .notNumeric argument => quote argument ++ ": expected a numeric value"
    | .notAllNumeric argument => quote argument ++ ": value not completely converted"
    | .outOfRange argument => quote argument ++ ": Numerical result out of range"
    | .unfinished conversion | .unknownConversion conversion =>
      conversion ++ ": invalid conversion specification"
    | .missingDigit => "missing hexadecimal number in escape"
    | .excess argument =>
      "warning: ignoring excess arguments, starting with " ++ quote argument
  failure := 1

/-- The command of the interpreter. -/
def ownDialect : Dialect where
  escapes :=
    { zeroFirst := false, stops := false, hexadecimal := false, demandsDigits := false
      quotes := false }
  argumentEscapes :=
    { zeroFirst := true, stops := true, hexadecimal := false, demandsDigits := false
      quotes := false }
  sizes := []
  strict := false
  bits := 53
  message
    | .notNumeric argument => argument ++ ": expected numeric value"
    | .notAllNumeric argument => argument ++ ": not completely converted"
    | .outOfRange argument => argument ++ ": Numerical result out of range"
    | .unfinished _ => "missing format character"
    | .unknownConversion conversion => conversion ++ ": invalid directive"
    | .missingDigit | .excess _ => ""
  failure := 2

/-- What has been printed, and what is left to be printed. -/
structure Printing where
  /-- The pieces of text, the last one first. -/
  pieces : List String := []
  problems : List PrintfProblem := []
  args : List String
  status : Int := 0

/-- A part of following a format. It can end before the end of the format. -/
abbrev Printer := EStateM Unit Printing

namespace Printer

/-- Print a text. -/
def emit (text : String) : Printer Unit :=
  modify fun printing ↦ { printing with pieces := text :: printing.pieces }

/-- Note a problem and go on. -/
def warn (problem : PrintfProblem) : Printer Unit :=
  modify fun printing ↦
    { printing with problems := printing.problems ++ [problem], status := 1 }

/-- Note a problem and stop. -/
def fail {α : Type} (dialect : Dialect) (problem : PrintfProblem) : Printer α := do
  warn problem
  modify fun printing ↦ { printing with status := dialect.failure }
  throw ()

/-- Take the next argument, if there is one. -/
def nextArgument? : Printer (Option String) := do
  let printing ← get
  match printing.args with
  | [] => return none
  | argument :: args =>
    set { printing with args }
    return some argument

/-! ## Numbers -/

/-- The characters in front of a number. -/
def skipSpace (cs : List Char) : List Char :=
  cs.dropWhile fun c ↦ c == ' ' || '\t' ≤ c && c ≤ '\x0d'

/-- An integer in front of a text, and what follows it. -/
def readInteger? (cs : List Char) : Option (Int × List Char) :=
  let body := skipSpace cs
  let isNegative := body.head? == some '-'
  let unsigned := if isNegative || body.head? == some '+' then body.tail else body
  let (base, start) : Nat × List Char := match unsigned with
    | '0' :: x :: c :: rest =>
      if (x == 'x' || x == 'X') && isHexadecimal c then (16, c :: rest) else (8, unsigned)
    | '0' :: _ => (8, unsigned)
    | _ => (10, unsigned)
  let isDigit := if base = 16 then isHexadecimal else if base = 8 then isOctal else Char.isDigit
  match start.takeWhile isDigit with
  | [] => none
  | digits =>
    let number : Int := digitsValue base digits
    some (if isNegative then -number else number, start.dropWhile isDigit)

/-- Warn if a number is not all of an argument. -/
def check (argument : String) (rest : List Char) : Printer Unit := do
  if !rest.isEmpty then warn (.notAllNumeric argument)

/-- The number that an argument stands for, within bounds. A quote in front asks for the code of the
character after it. -/
def integer (least greatest : Int) : Printer Int := do
  match ← nextArgument? with
  | none => return 0
  | some argument =>
    match argument.toList with
    | [] => return 0
    | q :: c :: _ =>
      if q = '"' || q = '\'' then return c.toNat
      else number argument
    | _ => number argument
where
  /-- The number that a text stands for. -/
  number (argument : String) : Printer Int := do
    match readInteger? argument.toList with
    | none =>
      if argument ∈ ["\"", "'"] then return 0
      warn (.notNumeric argument)
      return 0
    | some (value, rest) =>
      check argument rest
      if value < least || greatest < value then
        warn (.outOfRange argument)
        return if value < least then least else greatest
      else return value

/-- The greatest and least numbers of 64 bits. -/
def maxSigned : Int := 0x7fffffffffffffff

/-- The greatest number of 64 bits without a sign. -/
def maxUnsigned : Int := 0xffffffffffffffff

/-- The number with a fraction that an argument stands for. -/
def fraction (bits : Nat) : Printer (Bool × Fraction) := do
  match ← nextArgument? with
  | none => return (false, ⟨0, 1⟩)
  | some argument =>
    match argument.toList with
    | [] => return (false, ⟨0, 1⟩)
    | cs =>
      match readFraction? (skipSpace cs) with
      | none =>
        warn (.notNumeric argument)
        return (false, ⟨0, 1⟩)
      | some (isNegative, value, rest) =>
        check argument rest
        return (isNegative, value.toPrecision bits)

/-! ## Conversions -/

/-- Print an argument with its escapes replaced. -/
def emitEscaped (dialect : Dialect) (conversion : Conversion) : Printer Unit := do
  let argument := (← nextArgument?).getD ""
  let (text, ending) := unescape dialect.argumentEscapes argument
  emit (conversion.text text)
  match ending with
  | .complete => return ()
  | .stopped => throw ()
  | .broken => fail dialect .missingDigit

/-- Whether a conversion has nothing that does not fit its letter. -/
def isAcceptable (conversion : Conversion) : Bool :=
  let letter := conversion.letter
  !(conversion.has '#' && letter ∈ ['d', 'i', 'u', 's', 'c'])
    && !(conversion.has '0' && letter ∈ ['s', 'c'])
    && !(conversion.precision.isSome && letter = 'c')

/-- Follow a conversion, which is also given as it is written. -/
def convert (dialect : Dialect) (written : String) (isBare : Bool) (conversion : Conversion) :
    Printer Unit := do
  let letter := conversion.letter
  if letter = 'b' && (isBare || !dialect.strict) then emitEscaped dialect conversion
  else if dialect.strict && !isAcceptable conversion then fail dialect (.unknownConversion written)
  else if letter ∈ ['d', 'i'] then
    emit (conversion.signed (← integer (-maxSigned - 1) maxSigned))
  else if letter ∈ ['u', 'o', 'x', 'X'] then
    let value ← integer (-maxUnsigned) maxUnsigned
    emit (conversion.unsigned (value % (maxUnsigned + 1)).toNat)
  else if letter = 's' then emit (conversion.text ((← nextArgument?).getD ""))
  else if letter = 'c' then
    let c := ((← nextArgument?).getD "").toList.headD '\x00'
    emit (conversion.fill false "" (String.ofList [c]))
  else if letter ∈ ['e', 'E', 'f', 'F', 'g', 'G'] then
    let (isNegative, value) ← fraction dialect.bits
    emit (conversion.fractional isNegative value)
  else fail dialect (.unknownConversion written)

/-- A width or precision in front of a text: a number, or a star for an argument. -/
def readCount (cs : List Char) : Printer (Option Int × List Char) := do
  match cs with
  | '*' :: rest => return (some (← integer (-maxSigned - 1) maxSigned), rest)
  | cs =>
    match cs.takeWhile Char.isDigit with
    | [] => return (none, cs)
    | digits => return (some (digitsValue 10 digits), cs.dropWhile Char.isDigit)

/-- Follow the conversion after a percent sign. The answer is what follows it. -/
def readConversion (dialect : Dialect) (cs : List Char) : Printer (List Char) := do
  let isFlag (c : Char) : Bool := c ∈ ['-', '+', ' ', '#', '0']
  let flags := cs.takeWhile isFlag
  let (width, rest) ← readCount (cs.dropWhile isFlag)
  let (precision, rest) ← match rest with
    | '.' :: rest => do
      let (precision, rest) ← readCount rest
      let precision : Option Nat := match precision with
        | none => some 0
        | some count => if count < 0 then none else some count.toNat
      pure (precision, rest)
    | rest => pure (none, rest)
  let after := rest.dropWhile (· ∈ dialect.sizes)
  let written (count : Nat) : String :=
    String.ofList ('%' :: cs.take (cs.length - after.length + count))
  match after with
  | [] => fail dialect (.unfinished (written 0))
  | letter :: after =>
    let conversion : Conversion := { flags, width := width.getD 0, precision, letter }
    convert dialect (written 1) (cs.head? == some letter) conversion
    return after

/-- Follow a format once. -/
def runOnce (dialect : Dialect) : Nat → List Char → Printer Unit
  | 0, _ | _, [] => return ()
  | steps + 1, '%' :: '%' :: rest => do
    emit "%"
    runOnce dialect steps rest
  | steps + 1, '%' :: rest => do
    runOnce dialect steps (← readConversion dialect rest)
  | steps + 1, '\\' :: rest => do
    match readEscape dialect.escapes rest with
    | .text chars rest =>
      emit (String.ofList chars)
      runOnce dialect steps rest
    | .stop => throw ()
    | .broken => fail dialect .missingDigit
  | steps + 1, c :: rest => do
    emit (String.ofList [c])
    runOnce dialect steps rest

/-- Follow a format until no argument is left or it takes none, at most so many times. -/
def runAll (dialect : Dialect) (format : List Char) : Nat → Printer Unit
  | 0 => return ()
  | rounds + 1 => do
    let before := (← get).args.length
    runOnce dialect (format.length + 1) format
    match (← get).args with
    | [] => return ()
    | argument :: args =>
      if args.length + 1 = before then
        modify fun printing ↦
          { printing with problems := printing.problems ++ [.excess argument] }
      else runAll dialect format rounds

end Printer

/-- What a format with arguments prints: a text, complaints, and a status. -/
def printed (dialect : Dialect) (format : String) (args : List String) :
    String × List String × Int :=
  let final := match Printer.runAll dialect format.toList (args.length + 1) { args } with
    | .ok () final => final
    | .error () final => final
  (String.join final.pieces.reverse,
    (final.problems.map dialect.message).filter (· ≠ ""), final.status)

/-- Print as a format says. -/
def printf : Utility := fun name args ↦
  match (if args.head? = some "--" then args.tail else args) with
  | [] => finish name (misuse name "missing operand")
  | format :: args =>
    let (text, complaints, status) := printed programDialect format args
    let stderr := String.join (complaints.map fun message ↦ name ++ ": " ++ message ++ "\n")
    finish name { stdout := Octets.toBytes text, stderr, status }

end LineShell.Utility
