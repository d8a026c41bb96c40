import Mathlib
import OverlayNet.Text.Bytes

set_option autoImplicit false

/-! # The encoding of characters

Texts are encoded in UTF-8, character by character. A character takes one byte, which is its code,
exactly if it is ASCII; the bytes of all others have their highest bit set. -/

namespace OverlayNet

namespace Bytes

/-- The UTF-8 encoding of characters. -/
def encoded (characters : List Char) : Bytes :=
  characters.flatMap String.utf8EncodeChar

@[simp] theorem encoded_nil : encoded [] = [] := rfl

@[simp] theorem encoded_cons (character : Char) (rest : List Char) :
    encoded (character :: rest) = String.utf8EncodeChar character ++ encoded rest :=
  List.flatMap_cons

@[simp] theorem encoded_append (first second : List Char) :
    encoded (first ++ second) = encoded first ++ encoded second :=
  List.flatMap_append

theorem ofText_ofList (characters : List Char) :
    ofText (String.ofList characters) = encoded characters := by
  simp [ofText, encoded, List.utf8Encode]

theorem encoded_toList (text : String) : encoded text.toList = ofText text := by
  rw [← ofText_ofList, String.ofList_toList]

theorem utf8EncodeChar_of_ascii {character : Char} (ascii : character.toNat < 0x80) :
    String.utf8EncodeChar character = [UInt8.ofNat character.toNat] := by
  have small : character.val.toNat ≤ 0x7F := Nat.le_of_lt_succ ascii
  simp only [String.utf8EncodeChar, small, if_true]
  rfl

/-- All bytes of a character that is not ASCII have their highest bit set. -/
theorem le_of_mem_utf8EncodeChar {character : Char} (wide : 0x80 ≤ character.toNat) {byte : UInt8}
    (member : byte ∈ String.utf8EncodeChar character) : 0x80 ≤ byte := by
  have great : ¬ character.val.toNat ≤ 0x7F := Nat.not_le_of_lt wide
  simp only [String.utf8EncodeChar, great, if_false] at member
  rw [UInt8.le_iff_toNat_le]
  split at member
  · simp only [List.mem_cons, List.not_mem_nil, or_false] at member
    rcases member with rfl | rfl <;> simp <;> omega
  · split at member <;> simp only [List.mem_cons, List.not_mem_nil, or_false] at member
    · rcases member with rfl | rfl | rfl <;> simp <;> omega
    · rcases member with rfl | rfl | rfl | rfl <;> simp <;> omega

theorem length_encoded_of_ascii {characters : List Char}
    (ascii : ∀ character ∈ characters, character.toNat < 0x80) :
    (encoded characters).length = characters.length := by
  induction characters with
  | nil => rfl
  | cons character rest ih =>
      rw [encoded_cons, utf8EncodeChar_of_ascii (ascii character List.mem_cons_self),
        List.singleton_append, List.length_cons, List.length_cons,
        ih fun other member => ascii other (List.mem_cons_of_mem character member)]

end Bytes

end OverlayNet
