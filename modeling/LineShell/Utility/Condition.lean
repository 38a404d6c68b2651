import LineShell.Utility.Basic

/-!
# Conditions

Tests of files, texts and numbers, put together with signs for "not", "and" and "or" and with
parentheses. What a list of arguments means depends on their number first and on the signs second,
since every sign may also be a text that is tested.

The program and the command of the interpreter read conditions in different ways. Both are machines
on the arguments that are left; the tests themselves they share.
-/

namespace LineShell.Utility

/-- A condition that is being read: what is left of it. A failure has a message. -/
abbrev Check := StateT (List String) (ExceptT String Job)

namespace Check

/-! ## Tests -/

/-- Test the file at a path. -/
def testFile (letter : Char) (path : String) : Job Bool := do
  if letter ∈ ['L', 'h'] then
    match ← Job.linkStat path with
    | .ok (.link _) => return true
    | _ => return false
  else
    match ← Job.stat? path with
    | none => return false
    | some node =>
      match letter with
      | 'e' | 'w' | 'O' | 'G' | 'a' => return true
      | 'r' => return match node with
        | .directory permissions => permissions.list
        | _ => true
      | 'f' => return node.isFile
      | 'd' => return node.isDirectory
      | 'x' => return match node with
        | .directory permissions => permissions.search
        | _ => node.isExecutable
      | 'c' => return match node with
        | .device _ => true
        | _ => false
      | 's' => return match node with
        | .file content _ => !content.isEmpty
        | .directory _ | .program _ => true
        | _ => false
      | _ => return false

/-- The letters of tests with one operand. -/
def unaryLetters : List Char :=
  ['b', 'c', 'd', 'e', 'f', 'g', 'G', 'h', 'k', 'L', 'n', 'O', 'p', 'r', 's', 'S', 't', 'u', 'w',
    'x', 'z']

/-- The letter of a test with one operand. -/
def unary? (sign : String) : Option Char :=
  match sign.toList with
  | ['-', c] => if c ∈ unaryLetters then some c else none
  | _ => none

/-- Test one operand. -/
def testOne (letter : Char) (operand : String) : Job Bool := do
  match letter with
  | 'n' => return !operand.isEmpty
  | 'z' => return operand.isEmpty
  | 't' => return false
  | letter => testFile letter operand

/-- The signs that compare two integers. -/
def comparisons : List (String × (Int → Int → Bool)) :=
  [("-eq", fun a b ↦ a == b), ("-ne", fun a b ↦ a != b), ("-lt", fun a b ↦ a < b),
    ("-le", fun a b ↦ a ≤ b), ("-gt", fun a b ↦ a > b), ("-ge", fun a b ↦ a ≥ b)]

/-- The signs that compare two texts. -/
def textComparisons : List (String × (String → String → Bool)) :=
  [("=", fun a b ↦ a == b), ("!=", fun a b ↦ a != b), ("<", fun a b ↦ decide (a < b)),
    (">", fun a b ↦ decide (b < a))]

/-- The signs that compare two files. -/
def fileComparisons : List String :=
  ["-nt", "-ot", "-ef"]

/-- Whether a sign stands between two operands. -/
def isBinary (sign : String) : Bool :=
  sign ∈ fileComparisons || comparisons.any (·.1 = sign) || textComparisons.any (·.1 = sign)

/-- Compare two files. They are all of one age; but a file that is missing may count as older than
any other. -/
def compareFiles (missingIsOld : Bool) (sign a b : String) : Job Bool := do
  let here := (← read).cwd
  let tree := (← get).tree
  let place? (path : String) : Option Place :=
    (tree.locate here (Octets.toText path)).toOption.filter fun place ↦
      (tree.node? place).isSome
  match sign with
  | "-ef" => return (place? a).isSome && place? a == place? b
  | "-nt" => return missingIsOld && (place? a).isSome && (place? b).isNone
  | _ => return missingIsOld && (place? a).isNone && (place? b).isSome

/-- An integer with blanks around it. -/
def readNumber? (text : String) : Option Int :=
  let isBlank (c : Char) : Bool := c == ' ' || '\t' ≤ c && c ≤ '\x0d'
  let trimmed := (text.toList.dropWhile isBlank).reverse.dropWhile isBlank
  integer? (String.ofList trimmed.reverse)

/-- Compare two operands. Something that is no number fails with a message. -/
def testTwo (missingIsOld : Bool) (illegal : String → String) (a sign b : String) : Check Bool := do
  let number (text : String) : Check Int :=
    match readNumber? text with
    | some value => return value
    | none => throw (illegal text)
  match textComparisons.find? (·.1 = sign), comparisons.find? (·.1 = sign) with
  | some (_, holds), _ => return holds a b
  | none, some (_, holds) => do
    let left ← number a
    return holds left (← number b)
  | none, none => compareFiles missingIsOld sign a b

/-! ## What is left -/

/-- Take arguments away. -/
def advance (count : Nat := 1) : Check Unit :=
  modify (·.drop count)

/-- An argument is missing after a sign. -/
def missing {α : Type} (sign : String) : Check α :=
  throw (sign ++ ": argument expected")

end Check

/-! ## The command of the interpreter -/

namespace OwnCondition

open Check

/-- What an argument is, given those that follow it. -/
inductive Sign where
  | operand
  | unary (letter : Char)
  | binary
  | negation
  | conjunction
  | disjunction
  | opening
  | closing
  | nothing
  deriving DecidableEq, Repr

/-- The sign that a text is by itself. -/
def signOf (text : String) : Sign :=
  match text with
  | "!" => .negation
  | "-a" => .conjunction
  | "-o" => .disjunction
  | "(" => .opening
  | ")" => .closing
  | text =>
    match unary? text with
    | some letter => .unary letter
    | none => if isBinary text then .binary else .operand

/-- Whether a sign for one operand is an operand itself, by what follows it. -/
def isOperand : List String → Bool
  | [] => true
  | [_] => false
  | next :: _ :: _ => signOf next = .binary

/-- What the next argument is. -/
def next : List String → Sign
  | [] => .nothing
  | text :: rest =>
    match signOf text with
    | .unary letter => if isOperand rest then .operand else .unary letter
    | .opening => if rest.isEmpty then .operand else .opening
    | sign => sign

/-- The message about something that is no number. -/
def illegal (text : String) : String :=
  "Illegal number: " ++ text

/-- A single test, or a condition in parentheses. Afterwards the last argument that belongs to it
still stands. -/
def primary (whole : Check Bool) : Check Bool := do
  let args ← get
  match next args, args with
  | .nothing, _ => return false
  | .opening, _ :: rest =>
    if next rest = .closing then
      advance
      return false
    else
      advance
      let holds ← whole
      advance
      if next (← get) ≠ .closing then throw "closing paren expected"
      return holds
  | .unary letter, sign :: rest =>
    match rest with
    | [] => missing sign
    | operand :: _ =>
      advance
      testOne letter operand
  | _, [a] => return !a.isEmpty
  | _, a :: sign :: rest =>
    if next (sign :: rest) = .binary then
      match rest with
      | [] => missing sign
      | b :: _ =>
        advance 2
        testTwo false illegal a sign b
    else return !a.isEmpty
  | _, [] => return false

/-- A test with negations in front, at most so many. -/
def negations (whole : Check Bool) : Nat → Check Bool
  | 0 => primary whole
  | steps + 1 => do
    match ← get with
    | "!" :: rest =>
      if next rest ≠ .nothing then
        advance
        return !(← negations whole steps)
      else return true
    | _ => primary whole

/-- Tests of which all must hold, after what the tests so far come to. -/
def conjunction (test : Check Bool) : Nat → Bool → Check Bool
  | 0, sofar => return sofar
  | steps + 1, sofar => do
    let holds ← test
    match next ((← get).drop 1) with
    | .conjunction =>
      advance 2
      conjunction test steps (sofar && holds)
    | _ => return sofar && holds

/-- Conditions of which one must hold, after what the conditions so far come to. -/
def disjunction (part : Check Bool) : Nat → Bool → Check Bool
  | 0, sofar => return sofar
  | steps + 1, sofar => do
    let holds ← part
    match next ((← get).drop 1) with
    | .disjunction =>
      advance 2
      disjunction part steps (sofar || holds)
    | _ => return sofar || holds

/-- A whole condition, with so many levels of parentheses. -/
def whole (bound : Nat) : Nat → Check Bool
  | 0 => return false
  | levels + 1 =>
    disjunction (conjunction (negations (whole bound levels) bound) bound true) bound false

/-- A condition by the number of its arguments. -/
def condition (bound : Nat) : Nat → Check Bool
  | 0 => return false
  | steps + 1 => do
    let general : Check Bool := do
      let holds ← whole bound bound
      match ← get with
      | "" :: _ :: _ => throw "unexpected operator"
      | sign :: _ :: _ => throw (sign ++ ": unexpected operator")
      | _ => return holds
    match ← get with
    | [] => return false
    | args =>
      let count := args.length
      if count = 3 && signOf (args.getD 1 "") = .binary then
        testTwo false illegal (args.getD 0 "") (args.getD 1 "") (args.getD 2 "")
      else if count = 3 || count = 4 then
        if args.head? = some "(" && args.getLast? = some ")" then
          set (args.tail.dropLast)
          general
        else if args.head? = some "!" then
          advance
          return !(← condition bound steps)
        else general
      else general

/-- What arguments come to, or what is wrong with them. -/
def run (args : List String) : Job (Except String Bool) := do
  match ← (condition (args.length + 1) (args.length + 1)).run args with
  | .ok (holds, _) => return .ok holds
  | .error message => return .error message

end OwnCondition

/-! ## The program -/

namespace Condition

open Check

/-- The message about something that is no number. -/
def illegal (text : String) : String :=
  "invalid integer " ++ quote text

/-- Whether an argument looks like a test of one operand. -/
def looksUnary (text : String) : Bool :=
  match text.toList with
  | ['-', _] => true
  | _ => false

/-- An argument is missing at the end. -/
def beyond {α : Type} (all : List String) : Check α :=
  throw ("missing argument after " ++ quote (all.getLast?.getD ""))

/-- A test of one operand. -/
def unary (all : List String) : Check Bool := do
  match ← get with
  | sign :: rest =>
    match unary? sign with
    | none => throw (quote sign ++ ": unary operator expected")
    | some letter =>
      match rest with
      | [] => beyond all
      | operand :: _ =>
        advance 2
        testOne letter operand
  | [] => beyond all

/-- A comparison of two operands. -/
def binary (all : List String) : Check Bool := do
  match ← get with
  | a :: sign :: b :: _ =>
    advance 3
    testTwo true illegal a (if sign = "==" then "=" else sign) b
  | _ => beyond all

/-- Whether a sign stands between two operands. -/
def isComparison (sign : String) : Bool :=
  isBinary sign || sign = "=="

/-- A single text. -/
def single (all : List String) : Check Bool := do
  match ← get with
  | text :: _ =>
    advance
    return !text.isEmpty
  | [] => beyond all

/-- Two arguments. -/
def two (all : List String) : Check Bool := do
  match ← get with
  | "!" :: _ =>
    advance
    return !(← single all)
  | sign :: _ => if looksUnary sign then unary all else beyond all
  | [] => beyond all

/-- Three arguments, given how a condition in general is read. -/
def three (all : List String) (general : Check Bool) : Check Bool := do
  match ← get with
  | first :: second :: third :: _ =>
    if isComparison second then binary all
    else if first = "!" then
      advance
      return !(← two all)
    else if first = "(" && third = ")" then
      advance
      let holds ← single all
      advance
      return holds
    else if second ∈ ["-a", "-o"] then general
    else throw (quote second ++ ": binary operator expected")
  | _ => beyond all

/-- So many arguments, given how a condition in general is read. -/
def counted (all : List String) (general : Check Bool) (count : Nat) : Check Bool := do
  match count, ← get with
  | 1, _ => single all
  | 2, _ => two all
  | 3, _ => three all general
  | 4, first :: _ :: _ :: fourth :: _ =>
    if first = "!" then
      advance
      return !(← three all general)
    else if first = "(" && fourth = ")" then
      advance
      let holds ← two all
      advance
      return holds
    else general
  | _, _ => general

/-- How many arguments stand in parentheses that were just opened. -/
def groupSize (args : List String) : Nat :=
  match (List.range 4).find? fun index ↦ args[index + 1]? = some ")" with
  | some index => index + 1
  | none => args.length

/-- A test with negations in front of it, at most so many. -/
def term (all : List String) (group : Check Bool) : Nat → Check Bool
  | 0 => beyond all
  | steps + 1 => do
    match ← get with
    | [] => beyond all
    | "!" :: rest =>
      if rest.isEmpty then beyond all
      advance
      return !(← term all group steps)
    | "(" :: rest =>
      if rest.isEmpty then beyond all
      advance
      let holds ← group
      match ← get with
      | [] => throw (quote ")" ++ " expected")
      | ")" :: _ =>
        advance
        return holds
      | found :: _ => throw (quote ")" ++ " expected, found " ++ quote found)
    | first :: second :: _ :: _ =>
      if isComparison second then binary all
      else if looksUnary first then unary all
      else single all
    | first :: _ => if looksUnary first then unary all else single all

/-- Tests of which all must hold, after what the tests so far come to. -/
def conjunction (test : Check Bool) : Nat → Bool → Check Bool
  | 0, sofar => return sofar
  | steps + 1, sofar => do
    let holds ← test
    match ← get with
    | "-a" :: _ =>
      advance
      conjunction test steps (sofar && holds)
    | _ => return sofar && holds

/-- Conditions of which one must hold, after what the conditions so far come to. -/
def disjunction (part : Check Bool) : Nat → Bool → Check Bool
  | 0, sofar => return sofar
  | steps + 1, sofar => do
    let holds ← part
    match ← get with
    | "-o" :: _ =>
      advance
      disjunction part steps (sofar || holds)
    | _ => return sofar || holds

/-- A condition in general, with so many levels of parentheses. -/
def whole (all : List String) (bound : Nat) : Nat → Check Bool
  | 0 => beyond all
  | levels + 1 =>
    let group : Check Bool := do
      counted all (whole all bound levels) (groupSize (← get))
    disjunction (conjunction (term all group bound) bound true) bound false

/-- What arguments come to, or what is wrong with them. -/
def run (args : List String) : Job (Except String Bool) := do
  if args.isEmpty then return .ok false
  let bound := args.length + 1
  let check : Check Bool := do
    let holds ← counted args (whole args bound bound) args.length
    match ← get with
    | [] => return holds
    | extra :: _ => throw ("extra argument " ++ quote extra)
  match ← check.run args with
  | .ok (holds, _) => return .ok holds
  | .error message => return .error message

end Condition

/-- Come to the status of a condition. -/
def test : Utility := fun name args ↦ do
  match ← Condition.run args with
  | .ok true => return 0
  | .ok false => return 1
  | .error message => finish name (failure name message 2)

/-- Come to the status of a condition in brackets. -/
def bracket : Utility := fun name args ↦
  if args.getLast? = some "]" then test name args.dropLast
  else finish name (failure name "missing ']'" 2)

end LineShell.Utility
