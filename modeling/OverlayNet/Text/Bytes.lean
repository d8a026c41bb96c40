set_option autoImplicit false

/-! # Byte strings

Files, datagrams and configuration documents are byte strings. A text becomes a byte string by its
UTF-8 encoding, and a byte string is a text only when it is such an encoding. -/

namespace OverlayNet

abbrev Bytes : Type := List UInt8

namespace Bytes

def ofText (text : String) : Bytes :=
  text.toUTF8.data.toList

/-- The text that these bytes encode in UTF-8, if they encode one. -/
def text? (bytes : Bytes) : Option String :=
  String.fromUTF8? ⟨bytes.toArray⟩

/-- Every text is read back from its own encoding. -/
theorem text?_ofText (text : String) : text? (ofText text) = some text := by
  simpa [text?, ofText, String.fromUTF8?, String.fromUTF8] using text.isValidUTF8

/-- The number of bytes that a text takes in UTF-8. -/
def lengthOfText (text : String) : Nat :=
  (ofText text).length

/-- The four bytes of a word, least significant first. -/
def littleEndian32 (word : UInt32) : Bytes :=
  [word.toUInt8, (word >>> 8).toUInt8, (word >>> 16).toUInt8, (word >>> 24).toUInt8]

/-- The two bytes of a half word, least significant first. -/
def littleEndian16 (word : UInt16) : Bytes :=
  [word.toUInt8, (word >>> 8).toUInt8]

/-- The four bytes of a word, most significant first. -/
def bigEndian32 (word : UInt32) : Bytes :=
  [(word >>> 24).toUInt8, (word >>> 16).toUInt8, (word >>> 8).toUInt8, word.toUInt8]

/-- The two bytes of a half word, most significant first. -/
def bigEndian16 (word : UInt16) : Bytes :=
  [(word >>> 8).toUInt8, word.toUInt8]

/-- The word with these four bytes, the first the least significant. -/
def word32 (first second third fourth : UInt8) : UInt32 :=
  first.toUInt32 ||| (second.toUInt32 <<< 8) ||| (third.toUInt32 <<< 16) |||
    (fourth.toUInt32 <<< 24)

/-- The half word with these two bytes, the first the least significant. -/
def word16 (first second : UInt8) : UInt16 :=
  first.toUInt16 ||| (second.toUInt16 <<< 8)

end Bytes

end OverlayNet
