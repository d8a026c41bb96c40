import Mathlib
import OverlayNet.Text.Bytes

set_option autoImplicit false

/-! # Words and their octets

A word that is taken apart into octets, in either order, is put together again from them. -/

namespace OverlayNet.Bytes

private theorem or_shiftLeft (low high width : Nat) (narrow : low < 2 ^ width) :
    low ||| high <<< width = low + high * 2 ^ width := by
  rw [Nat.or_comm, ← Nat.shiftLeft_add_eq_or_of_lt narrow, Nat.shiftLeft_eq, Nat.add_comm]

theorem toNat_word16 (first second : UInt8) :
    (word16 first second).toNat = first.toNat + second.toNat * 2 ^ 8 := by
  have firstBound := first.toNat_lt
  have secondBound := second.toNat_lt
  have shifted : (second.toUInt16 <<< 8).toNat = second.toNat <<< 8 := by
    simp [Nat.shiftLeft_eq]
    omega
  rw [word16, UInt16.toNat_or, shifted, UInt8.toNat_toUInt16, or_shiftLeft _ _ _ firstBound]

theorem toNat_word32 (first second third fourth : UInt8) :
    (word32 first second third fourth).toNat =
      first.toNat + second.toNat * 2 ^ 8 + third.toNat * 2 ^ 16 + fourth.toNat * 2 ^ 24 := by
  have firstBound := first.toNat_lt
  have secondBound := second.toNat_lt
  have thirdBound := third.toNat_lt
  have fourthBound := fourth.toNat_lt
  have shifted : ∀ (octet : UInt8) (width : Nat), width ≤ 24 →
      (octet.toUInt32 <<< UInt32.ofNat width).toNat = octet.toNat <<< width := by
    intro octet width small
    have bound := octet.toNat_lt
    have power : 2 ^ width ≤ 2 ^ 24 := Nat.pow_le_pow_right (by decide) small
    have product : octet.toNat * 2 ^ width < 2 ^ 32 := by nlinarith
    rw [UInt32.toNat_shiftLeft, UInt8.toNat_toUInt32, UInt32.toNat_ofNat',
      Nat.mod_eq_of_lt (a := width) (by omega), Nat.mod_eq_of_lt (a := width) (by omega),
      Nat.shiftLeft_eq, Nat.mod_eq_of_lt product]
  have second_shifted := shifted second 8 (by decide)
  have third_shifted := shifted third 16 (by decide)
  have fourth_shifted := shifted fourth 24 (by decide)
  simp only [UInt32.reduceOfNat] at second_shifted third_shifted fourth_shifted
  rw [word32, UInt32.toNat_or, UInt32.toNat_or, UInt32.toNat_or, second_shifted, third_shifted,
    fourth_shifted, UInt8.toNat_toUInt32, or_shiftLeft _ _ 8 firstBound,
    or_shiftLeft _ _ 16 (by omega), or_shiftLeft _ _ 24 (by omega)]

theorem word16_littleEndian16 (word : UInt16) :
    word16 word.toUInt8 (word >>> 8).toUInt8 = word := by
  have bound := word.toNat_lt
  rw [← UInt16.toNat_inj, toNat_word16]
  simp [Nat.shiftRight_eq_div_pow]
  omega

theorem word32_littleEndian32 (word : UInt32) :
    word32 word.toUInt8 (word >>> 8).toUInt8 (word >>> 16).toUInt8 (word >>> 24).toUInt8 =
      word := by
  have bound := word.toNat_lt
  rw [← UInt32.toNat_inj, toNat_word32]
  simp [Nat.shiftRight_eq_div_pow]
  omega

theorem littleEndian16_word16 (first second : UInt8) :
    littleEndian16 (word16 first second) = [first, second] := by
  have firstBound := first.toNat_lt
  have secondBound := second.toNat_lt
  simp [littleEndian16, ← UInt8.toNat_inj, toNat_word16, Nat.shiftRight_eq_div_pow]
  omega

theorem littleEndian32_word32 (first second third fourth : UInt8) :
    littleEndian32 (word32 first second third fourth) = [first, second, third, fourth] := by
  have firstBound := first.toNat_lt
  have secondBound := second.toNat_lt
  have thirdBound := third.toNat_lt
  have fourthBound := fourth.toNat_lt
  simp [littleEndian32, ← UInt8.toNat_inj, toNat_word32, Nat.shiftRight_eq_div_pow]
  omega

theorem exists_littleEndian32 {bytes : Bytes} (four : bytes.length = 4) :
    ∃ word, bytes = littleEndian32 word := by
  match bytes, four with
  | [first, second, third, fourth], _ =>
      exact ⟨word32 first second third fourth,
        (littleEndian32_word32 first second third fourth).symm⟩

end OverlayNet.Bytes
