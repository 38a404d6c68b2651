import LineShell.Text.Utf8

/-!
# Octets

A program sees bytes where its user sees text. An octet text is a text in which every character
stands for one byte, so that bytes can be cut, compared and written down like characters; what the
user means by it comes out when its bytes are decoded.
-/

namespace LineShell.Octets

/-- The character that stands for a byte. -/
def ofByte (byte : UInt8) : Char :=
  Char.ofNat byte.toNat

/-- The octet text of bytes. -/
def ofBytes (bytes : Bytes) : String :=
  String.ofList (bytes.map ofByte)

/-- The bytes of an octet text. -/
def toBytes (octets : String) : Bytes :=
  octets.toList.map fun c ↦ UInt8.ofNat c.toNat

/-- The octet text of a text. -/
def ofText (text : String) : String :=
  ofBytes (Utf8.encode text)

/-- The text that an octet text is shown as. -/
def toText (octets : String) : String :=
  Utf8.decode (toBytes octets)

end LineShell.Octets
