/-!
# Patterns

A pattern describes texts: a star fits any text, a question mark any character, and brackets any
character of a set. A character that was quoted stands for itself. The same patterns choose the
clause of a choice, cut off an end of a value, and name files.

A pattern is read from glyphs, which are the characters that an expansion comes to.
-/

namespace LineShell.Script

/-- A character that a word comes to. -/
structure Glyph where
  char : Char
  /-- Whether it stands for itself wherever it would mean something else. -/
  quoted : Bool := false
  /-- Whether it divides fields, if it is one of the characters that do. -/
  divides : Bool := false
  deriving DecidableEq, Repr

/-- The text of glyphs. -/
def textOf (glyphs : List Glyph) : String :=
  String.ofList (glyphs.map Glyph.char)

namespace Pattern

/-- A member of a set of characters. -/
inductive Member where
  | range (least greatest : Char)
  | kind (name : String)
  deriving DecidableEq, Repr

/-- What a part of a pattern fits. -/
inductive Atom where
  | char (c : Char)
  | one
  | any
  | set (negated : Bool) (members : List Member)
  deriving DecidableEq, Repr

/-- The characters of a class. -/
def isInClass (name : String) (c : Char) : Bool :=
  let isGraphic := '\x21' ≤ c && c ≤ '\x7e'
  match name with
  | "alpha" => c.isAlpha
  | "digit" => c.isDigit
  | "alnum" => c.isAlphanum
  | "upper" => c.isUpper
  | "lower" => c.isLower
  | "space" => c == ' ' || '\t' ≤ c && c ≤ '\x0d'
  | "blank" => c == ' ' || c == '\t'
  | "punct" => isGraphic && !c.isAlphanum
  | "print" => isGraphic || c == ' '
  | "graph" => isGraphic
  | "cntrl" => c < ' ' || c == '\x7f'
  | "xdigit" => c.isDigit || 'a' ≤ c.toLower && c.toLower ≤ 'f'
  | _ => false

/-- Whether a member holds a character. -/
def Member.holds (c : Char) : Member → Bool
  | .range least greatest => least ≤ c && c ≤ greatest
  | .kind name => isInClass name c

/-! ## Reading -/

/-- The name of a class up to its closing sign, and what follows. -/
def readClass? (glyphs : List Glyph) : Option (String × List Glyph) :=
  match glyphs with
  | ⟨':', false, _⟩ :: rest =>
    let name := rest.takeWhile fun glyph ↦ glyph.char.isAlpha
    match rest.dropWhile fun glyph ↦ glyph.char.isAlpha with
    | ⟨':', _, _⟩ :: ⟨']', _, _⟩ :: rest => some (textOf name, rest)
    | _ => none
  | _ => none

/-- The members of a set up to its closing bracket, and what follows. -/
def readMembers : Nat → List Glyph → Option (List Member × List Glyph)
  | 0, _ | _, [] => none
  | steps + 1, glyph :: rest =>
    let goOn (member : Member) (rest : List Glyph) : Option (List Member × List Glyph) :=
      match rest with
      | ⟨']', false, _⟩ :: after => some ([member], after)
      | rest => (readMembers steps rest).map fun (members, after) ↦ (member :: members, after)
    let class? := if glyph.char = '[' && !glyph.quoted then readClass? rest else none
    match class?, rest with
    | some (name, rest), _ => goOn (.kind name) rest
    | none, ⟨'-', false, _⟩ :: last :: after =>
      if last.char = ']' && !last.quoted then goOn (.range glyph.char glyph.char) rest
      else goOn (.range glyph.char last.char) after
    | none, rest => goOn (.range glyph.char glyph.char) rest

/-- The set that follows an opening bracket, and what follows it. -/
def readSet? (glyphs : List Glyph) : Option (Atom × List Glyph) :=
  match glyphs with
  | ⟨'!', false, _⟩ :: rest =>
    (readMembers (rest.length + 1) rest).map fun (members, after) ↦ (.set true members, after)
  | rest =>
    (readMembers (rest.length + 1) rest).map fun (members, after) ↦ (.set false members, after)

/-- The atoms of a pattern. It takes at most one step per glyph. -/
def readFrom : Nat → List Glyph → List Atom
  | 0, _ | _, [] => []
  | steps + 1, glyph :: rest =>
    if glyph.quoted then .char glyph.char :: readFrom steps rest
    else if glyph.char = '*' then .any :: readFrom steps rest
    else if glyph.char = '?' then .one :: readFrom steps rest
    else if glyph.char = '[' then
      match readSet? rest with
      | some (atom, rest) => atom :: readFrom steps rest
      | none => .char '[' :: readFrom steps rest
    else .char glyph.char :: readFrom steps rest

/-- The pattern that glyphs stand for. -/
def read (glyphs : List Glyph) : List Atom :=
  readFrom glyphs.length glyphs

/-- Whether an atom fits more than one text. -/
def Atom.isOpen : Atom → Bool
  | .char _ => false
  | _ => true

/-! ## Fitting -/

/-- Whether an atom fits one character. -/
def Atom.fits (c : Char) : Atom → Bool
  | .char other => c == other
  | .one | .any => true
  | .set negated members => members.any (Member.holds c) != negated

/-- What is left of a text when more and more is taken from its front. -/
def suffixes : List Char → List (List Char)
  | [] => [[]]
  | c :: rest => (c :: rest) :: suffixes rest

/-- Whether a pattern fits a whole text. -/
def fits : List Atom → List Char → Bool
  | [], cs => cs.isEmpty
  | .any :: rest, cs => (suffixes cs).any (fits rest)
  | _ :: _, [] => false
  | atom :: rest, c :: cs => atom.fits c && fits rest cs

/-! ## Cutting -/

/-- A text up to its first NUL. -/
def firstField (cs : List Char) : List Char :=
  cs.takeWhile (· != '\x00')

/-- The lengths at which a text may be cut, from the first one to be tried. NULs may divide it into
fields; from the start on, only the first field is tried. -/
def cuts (fromStart : Bool) (cs : List Char) : List Nat :=
  if fromStart then List.range ((firstField cs).length + 1)
  else (List.range (cs.length + 1)).reverse

/-- What is left of a text without the part at its start that a pattern fits. Of the part only the
first field is looked at. -/
def cutStart (pattern : List Atom) (longest : Bool) (cs : List Char) : List Char :=
  match (cuts (!longest) cs).find? fun length ↦ fits pattern (firstField (cs.take length)) with
  | some length => cs.drop length
  | none => cs

/-- What is left of a text without the part at its end that a pattern fits. Of the part only the
first field is looked at. -/
def cutEnd (pattern : List Atom) (longest : Bool) (cs : List Char) : List Char :=
  match (cuts longest cs).find? fun length ↦ fits pattern (firstField (cs.drop length)) with
  | some length => cs.take length
  | none => cs

end Pattern

end LineShell.Script
