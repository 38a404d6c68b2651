/-!
# Bytes and UTF-8

Files and pipes hold bytes, the terminal shows text. Text becomes bytes by UTF-8; bytes become text
by a decoder that never fails: a sequence that UTF-8 cannot hold is shown as U+FFFD, once for every
maximal part of it that could still have begun a character.

The decoder is a machine that reads one byte at a time. Between bytes it holds the number of
continuation bytes still owed, the range in which the next of them must lie, and the value read so
far; that range is what rules out overlong forms, surrogates and values past U+10FFFF. A byte
outside the range closes the broken sequence and is then read again as the first of a new one.
-/

namespace LineShell

/-- A sequence of bytes. -/
abbrev Bytes := List UInt8

namespace Utf8

/-- The bytes of a text. -/
def encode (text : String) : Bytes :=
  text.toList.flatMap String.utf8EncodeChar

@[simp] theorem encode_append (a b : String) : encode (a ++ b) = encode a ++ encode b := by
  simp [encode]

/-! ## Decoding -/

/-- Where the decoder stands inside a character: how many bytes it still needs, the least and the
greatest value of the next one, and the value of the bits read so far. -/
structure Pending where
  owed : Nat
  least : Nat
  greatest : Nat
  value : Nat
  deriving DecidableEq, Repr

/-- What the first byte of a character leads to. -/
inductive Start where
  /-- The byte is a whole character. -/
  | whole (c : Char)
  /-- The byte begins a longer character. -/
  | opens (pending : Pending)
  /-- No character begins with the byte. -/
  | broken
  deriving DecidableEq, Repr

/-- The character shown for a broken sequence. -/
def replacement : Char := '\uFFFD'

/-- The first byte of a character. -/
def start (b : Nat) : Start :=
  if b ≤ 0x7F then .whole (Char.ofNat b)
  else if 0xC2 ≤ b ∧ b ≤ 0xDF then .opens ⟨1, 0x80, 0xBF, b - 0xC0⟩
  else if b = 0xE0 then .opens ⟨2, 0xA0, 0xBF, 0⟩
  else if b = 0xED then .opens ⟨2, 0x80, 0x9F, 0xD⟩
  else if 0xE1 ≤ b ∧ b ≤ 0xEF then .opens ⟨2, 0x80, 0xBF, b - 0xE0⟩
  else if b = 0xF0 then .opens ⟨3, 0x90, 0xBF, 0⟩
  else if 0xF1 ≤ b ∧ b ≤ 0xF3 then .opens ⟨3, 0x80, 0xBF, b - 0xF0⟩
  else if b = 0xF4 then .opens ⟨3, 0x80, 0x8F, 4⟩
  else .broken

/-- The decoder between two bytes: the text so far and the character it is inside of, if any. -/
structure Decoder where
  text : String := ""
  pending : Option Pending := none
  deriving DecidableEq, Repr

/-- Read the first byte of a character. -/
def Decoder.begin (d : Decoder) (b : Nat) : Decoder :=
  match start b with
  | .whole c => ⟨d.text.push c, none⟩
  | .opens pending => ⟨d.text, some pending⟩
  | .broken => ⟨d.text.push replacement, none⟩

/-- Read one byte. -/
def Decoder.step (d : Decoder) (byte : UInt8) : Decoder :=
  let b := byte.toNat
  match d.pending with
  | none => d.begin b
  | some p =>
    if p.least ≤ b ∧ b ≤ p.greatest then
      let value := 64 * p.value + (b - 0x80)
      if p.owed ≤ 1 then ⟨d.text.push (Char.ofNat value), none⟩
      else ⟨d.text, some ⟨p.owed - 1, 0x80, 0xBF, value⟩⟩
    else Decoder.begin ⟨d.text.push replacement, none⟩ b

/-- Close a character that the bytes leave open. -/
def Decoder.finish (d : Decoder) : String :=
  match d.pending with
  | none => d.text
  | some _ => d.text.push replacement

/-- The text that bytes are shown as. -/
def decode (bytes : Bytes) : String :=
  (bytes.foldl Decoder.step {}).finish

end Utf8

end LineShell
