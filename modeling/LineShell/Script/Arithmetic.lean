import LineShell.Script.Statement

/-!
# Arithmetic in scripts

Integer expressions with the operators and precedences of C, on words of 64 bits. A name stands for
the number that its variable holds; an assignment gives it another one, which the rest of the
expression sees.

Reading and computing are one pass. An operand whose value cannot matter is read and not computed:
nothing is divided or assigned in it. The reader of one level of precedence takes the reader of the
next one, and parentheses and operators bind the recursion to the number of tokens.
-/

namespace LineShell.Script

/-! ## Numbers -/

/-- A digit of a base, if the character is one. -/
def digit? (base : Nat) (c : Char) : Option Nat :=
  let value? : Option Nat :=
    if c.isDigit then some (c.toNat - '0'.toNat)
    else if c.isAlpha then some (c.toLower.toNat - 'a'.toNat + 10)
    else none
  value?.filter (· < base)

/-- The number that digits stand for. -/
def numberOfDigits (base : Nat) (digits : List Char) : Nat :=
  digits.foldl (fun number c ↦ base * number + (digit? base c).getD 0) 0

/-- The number in front of a text that has no sign, and what follows it. The base shows in the first
characters. -/
def readNatural (cs : List Char) : Nat × List Char :=
  let inBase (base : Nat) (cs : List Char) : Nat × List Char :=
    let isDigit (c : Char) : Bool := (digit? base c).isSome
    (numberOfDigits base (cs.takeWhile isDigit), cs.dropWhile isDigit)
  match cs with
  | '0' :: x :: c :: rest =>
    if (x == 'x' || x == 'X') && (digit? 16 c).isSome then inBase 16 (c :: rest) else inBase 8 cs
  | '0' :: _ => inBase 8 cs
  | _ => inBase 10 cs

/-- The greatest number of 64 bits. -/
def maxNumber : Nat := 0x7fffffffffffffff

/-- Whether a character is blank space. -/
def isSpace (c : Char) : Bool :=
  c == ' ' || '\t' ≤ c && c ≤ '\x0d'

/-- The number that a text stands for. Blanks may stand around it, and an empty text is zero. -/
def integer? (text : String) : Option Int64 :=
  let body := text.toList.dropWhile isSpace
  let isNegative := body.head? == some '-'
  let unsigned := if isNegative || body.head? == some '+' then body.tail else body
  let (number, rest) := readNatural unsigned
  let isInRange := number ≤ (if isNegative then maxNumber + 1 else maxNumber)
  let isRead := unsigned.head?.any Char.isDigit || body.isEmpty
  if isRead && isInRange && rest.all isSpace then
    some (Int64.ofInt (if isNegative then -number else number))
  else none

namespace Arithmetic

/-- Why an expression has no value. -/
inductive Problem where
  /-- Something else must stand in the expression. -/
  | expecting (what : String)
  | divisionByZero
  /-- A variable holds something that is no number. -/
  | illegalNumber (text : String)
  deriving DecidableEq, Repr

/-! ## Tokens -/

/-- A token of an expression. -/
inductive Token where
  | number (value : Int64)
  | name (text : String)
  | sign (text : String)
  /-- Something that belongs to no expression. -/
  | bad
  deriving DecidableEq, Repr

/-- The signs, longer ones first. -/
def signs : List String :=
  ["<<=", ">>=", "<<", ">>", "<=", ">=", "==", "!=", "&&", "||", "*=", "/=", "%=", "+=", "-=", "&=",
    "^=", "|=", "=", "<", ">", "|", "&", "!", "(", ")", "~", ":", "?", "*", "/", "%", "+", "-", "^"]

/-- The tokens of an expression. It takes at most one step per character. -/
def tokensFrom : Nat → List Char → List Token
  | 0, _ | _, [] => []
  | steps + 1, c :: rest =>
    if c == ' ' || c == '\t' || c == '\n' then tokensFrom steps rest
    else if c.isDigit then
      let (number, after) := readNatural (c :: rest)
      .number (Int64.ofNat (min number maxNumber)) :: tokensFrom steps after
    else if isNameStart c then
      .name (String.ofList ((c :: rest).takeWhile isNameChar))
        :: tokensFrom steps ((c :: rest).dropWhile isNameChar)
    else match signs.find? fun sign ↦ sign.toList.isPrefixOf (c :: rest) with
      | some sign => .sign sign :: tokensFrom steps ((c :: rest).drop sign.length)
      | none => [.bad]

/-! ## Evaluation -/

/-- What is left of an expression, and what was assigned so far, the last first. -/
structure Evaluation where
  tokens : List Token
  assigned : List (String × Int64) := []

/-- A part of an evaluation. -/
abbrev Eval := EStateM Problem Evaluation

/-- The next token. -/
def next? : Eval (Option Token) :=
  return (← get).tokens.head?

/-- Take the next token. -/
def advance : Eval Unit :=
  modify fun evaluation ↦ { evaluation with tokens := evaluation.tokens.tail }

/-- Take a sign if it comes next. -/
def takeSign (text : String) : Eval Bool := do
  if (← next?) = some (.sign text) then
    advance
    return true
  else return false

/-- The number that a variable holds. -/
def valueOf (lookUp : String → String) (name : String) : Eval Int64 := do
  match (← get).assigned.find? fun entry ↦ entry.1 = name with
  | some (_, value) => return value
  | none =>
    match integer? (lookUp name) with
    | some value => return value
    | none => throw (.illegalNumber (lookUp name))

/-- One or zero. -/
def truth (holds : Bool) : Int64 :=
  if holds then 1 else 0

/-- Apply an operator to two numbers. -/
def combine (sign : String) (a b : Int64) : Eval Int64 :=
  match sign with
  | "*" => return a * b
  | "/" => if b = 0 then throw .divisionByZero else return a / b
  | "%" => if b = 0 then throw .divisionByZero else return a % b
  | "+" => return a + b
  | "-" => return a - b
  | "<<" => return a <<< b
  | ">>" => return a >>> b
  | "<" => return truth (decide (a < b))
  | "<=" => return truth (decide (a ≤ b))
  | ">" => return truth (decide (b < a))
  | ">=" => return truth (decide (b ≤ a))
  | "==" => return truth (a == b)
  | "!=" => return truth (a != b)
  | "&" => return a &&& b
  | "^" => return a ^^^ b
  | "|" => return a ||| b
  | _ => return b

/-- The operators with two operands, by their precedence, those that bind most tightly first. -/
def precedences : List (List String) :=
  [["*", "/", "%"], ["+", "-"], ["<<", ">>"], ["<", "<=", ">", ">="], ["==", "!="], ["&"], ["^"],
    ["|"]]

/-- The operators of assignments, each with the operator that it applies first. -/
def assignments : List (String × String) :=
  [("=", "="), ("*=", "*"), ("/=", "/"), ("%=", "%"), ("+=", "+"), ("-=", "-"), ("<<=", "<<"),
    (">>=", ">>"), ("&=", "&"), ("^=", "^"), ("|=", "|")]

/-- What computes an operand, unless its value is not needed. -/
abbrev Operand := (isIdle : Bool) → Eval Int64

/-- A number, a name, or an expression in parentheses, with any signs in front. -/
def primary (lookUp : String → String) (whole : Operand) : Nat → Operand
  | 0, _ => throw (.expecting "primary")
  | steps + 1, isIdle => do
    let token ← next?
    advance
    match token with
    | some (.number value) => return value
    | some (.name name) => if isIdle then return 0 else valueOf lookUp name
    | some (.sign "(") => do
      let value ← whole isIdle
      if ← takeSign ")" then return value else throw (.expecting "')'")
    | some (.sign "+") => primary lookUp whole steps isIdle
    | some (.sign "-") => return -(← primary lookUp whole steps isIdle)
    | some (.sign "!") => return truth ((← primary lookUp whole steps isIdle) == 0)
    | some (.sign "~") => return ~~~(← primary lookUp whole steps isIdle)
    | _ => throw (.expecting "primary")

/-- Go on from a number with operators of one precedence, at most so many. -/
def chainFrom (operand : Operand) (signs : List String) (isIdle : Bool) :
    Nat → Int64 → Eval Int64
  | 0, left => return left
  | steps + 1, left => do
    match ← next? with
    | some (.sign sign) =>
      if sign ∈ signs then
        advance
        let right ← operand isIdle
        let value ← if isIdle then pure right else combine sign left right
        chainFrom operand signs isIdle steps value
      else return left
    | _ => return left

/-- Operands with operators of one precedence between them. -/
def chain (steps : Nat) (operand : Operand) (signs : List String) : Operand := fun isIdle ↦ do
  chainFrom operand signs isIdle steps (← operand isIdle)

/-- Operands of which all must hold. -/
def conjunction (operand : Operand) : Nat → Operand
  | 0, isIdle => operand isIdle
  | steps + 1, isIdle => do
    let left ← operand isIdle
    if ← takeSign "&&" then
      let right ← conjunction operand steps (isIdle || left == 0)
      return truth (left != 0 && right != 0)
    else return left

/-- Operands of which one must hold. -/
def disjunction (operand : Operand) : Nat → Operand
  | 0, isIdle => operand isIdle
  | steps + 1, isIdle => do
    let left ← operand isIdle
    if ← takeSign "||" then
      let right ← disjunction operand steps (isIdle || left != 0)
      return truth (left != 0 || right != 0)
    else return left

/-- A test with a value for each case. -/
def conditional (operand whole : Operand) : Nat → Operand
  | 0, isIdle => operand isIdle
  | steps + 1, isIdle => do
    let test ← operand isIdle
    if ← takeSign "?" then
      let yes ← whole (isIdle || test == 0)
      if !(← takeSign ":") then throw (.expecting "':'")
      let no ← conditional operand whole steps (isIdle || test != 0)
      return if test != 0 then yes else no
    else return test

/-- Assign the value of an expression to a name. -/
def assign (lookUp : String → String) (name sign : String) (value : Int64) : Eval Int64 := do
  let value ←
    if sign = "=" then pure value else combine sign (← valueOf lookUp name) value
  modify fun evaluation ↦
    { evaluation with assigned := (name, value) :: evaluation.assigned }
  return value

/-- A whole expression, with so many levels of parentheses and assignments left. -/
def expression (lookUp : String → String) (bound : Nat) : Nat → Operand
  | 0, _ => throw (.expecting "primary")
  | levels + 1, isIdle => do
    let whole : Operand := expression lookUp bound levels
    match (← get).tokens with
    | .name name :: .sign sign :: _ =>
      match assignments.find? fun entry ↦ entry.1 = sign with
      | some (_, operator) =>
        advance
        advance
        let value ← whole isIdle
        if isIdle then return value else assign lookUp name operator value
      | none => simple whole isIdle
    | _ => simple whole isIdle
where
  /-- An expression that assigns nothing by itself. -/
  simple (whole : Operand) : Operand :=
    let operand := precedences.foldl (chain bound) (primary lookUp whole bound)
    conditional (disjunction (conjunction operand bound) bound) whole bound

/-- The value of an expression and what it assigns, in order. -/
def evaluate (lookUp : String → String) (text : String) :
    Except Problem (Int64 × List (String × Int64)) :=
  let tokens := tokensFrom (text.length + 1) text.toList
  let bound := tokens.length + 1
  match expression lookUp bound (bound + 1) false { tokens } with
  | .ok value final =>
    if final.tokens.isEmpty then .ok (value, final.assigned.reverse)
    else .error (.expecting "EOF")
  | .error problem _ => .error problem

end Arithmetic

end LineShell.Script
