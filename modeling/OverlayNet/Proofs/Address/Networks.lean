import Mathlib
import OverlayNet.Address.Cidr

set_option autoImplicit false

/-! # Networks

Two addresses are in one network exactly if they agree in as many leading bits as the prefix is
long. The mask of the prefix keeps those bits and clears the others. -/

namespace OverlayNet

namespace Ipv4

/-- The leading bits of an address as a number. -/
def leading (address : Ipv4) (length : Nat) : Nat :=
  address.bits.toNat / 2 ^ (32 - length)

/-- Addresses that agree in some leading bits agree in fewer. -/
theorem leading_mono {address other : Ipv4} {shorter longer : Nat} (less : shorter ≤ longer)
    (possible : longer ≤ 32) (same : address.leading longer = other.leading longer) :
    address.leading shorter = other.leading shorter := by
  have coarser : ∀ word : Ipv4,
      word.leading shorter = word.leading longer / 2 ^ (longer - shorter) := by
    intro word
    have lengths : 32 - shorter = 32 - longer + (longer - shorter) := by omega
    rw [leading, leading, lengths, Nat.pow_add, Nat.div_div_eq_div_mul]
  rw [coarser, coarser, same]

theorem testBit_beyond {word position : Nat} (small : word < 2 ^ 32) (beyond : 32 ≤ position) :
    word.testBit position = false :=
  Nat.testBit_lt_two_pow (small.trans_le (Nat.pow_le_pow_right (by decide) beyond))

/-- Leading ones are a run of ones behind which zeros stand. -/
theorem leadingOnes_eq {length : Nat} (possible : length ≤ 32) :
    2 ^ 32 - 2 ^ (32 - length) = 2 ^ (32 - length) * (2 ^ length - 1) := by
  rw [Nat.mul_sub_one, ← Nat.pow_add, Nat.sub_add_cancel possible]

theorem testBit_leadingOnes {length : Nat} (possible : length ≤ 32) {position : Nat}
    (inside : position < 32) :
    (2 ^ 32 - 2 ^ (32 - length)).testBit position = decide (32 - length ≤ position) := by
  rw [leadingOnes_eq possible, Nat.testBit_two_pow_mul, Nat.testBit_two_pow_sub_one]
  by_cases leads : 32 - length ≤ position
  · have counted : position - (32 - length) < length := by omega
    simp [leads, counted]
  · simp [leads]

/-- A mask of leading ones clears the bits behind them. -/
theorem and_leadingOnes {word length : Nat} (small : word < 2 ^ 32) (possible : length ≤ 32) :
    word &&& (2 ^ 32 - 2 ^ (32 - length)) = word / 2 ^ (32 - length) * 2 ^ (32 - length) := by
  rw [Nat.mul_comm (word / _)]
  apply Nat.eq_of_testBit_eq
  intro position
  rw [Nat.testBit_and, Nat.testBit_two_pow_mul, Nat.testBit_div_two_pow]
  by_cases inside : position < 32
  · rw [testBit_leadingOnes possible inside]
    by_cases leads : 32 - length ≤ position <;> simp [leads]
  · have leads : 32 - length ≤ position := by omega
    simp [leads, testBit_beyond small (Nat.le_of_not_lt inside)]

theorem advance_one_ne (address : Ipv4) : address.advance 1 ≠ address := by
  intro same
  have bits : address.bits + 1 = address.bits + 0 :=
    (congrArg Ipv4.bits same).trans (UInt32.add_zero _).symm
  exact absurd ((UInt32.add_right_inj _).mp bits) (by decide)

end Ipv4

namespace Cidr

theorem toNat_mask (cidr : Cidr) :
    cidr.mask.bits.toNat = 2 ^ 32 - 2 ^ (32 - cidr.prefixLength) := by
  have positive := Nat.two_pow_pos (32 - cidr.prefixLength)
  exact UInt32.toNat_ofNat_of_lt' (show 2 ^ 32 - 2 ^ (32 - cidr.prefixLength) < 2 ^ 32 by omega)

theorem toNat_and_mask (cidr : Cidr) (address : Ipv4) :
    (address.bits &&& cidr.mask.bits).toNat =
      address.leading cidr.prefixLength * 2 ^ (32 - cidr.prefixLength) := by
  rw [UInt32.toNat_and, toNat_mask,
    Ipv4.and_leadingOnes address.bits.toNat_lt cidr.prefixLength_le, Ipv4.leading]

theorem toNat_network (cidr : Cidr) :
    cidr.network.bits.toNat =
      cidr.address.leading cidr.prefixLength * 2 ^ (32 - cidr.prefixLength) :=
  toNat_and_mask cidr cidr.address

theorem contains_iff_masked {cidr : Cidr} {address : Ipv4} :
    cidr.contains address = true ↔ address.bits &&& cidr.mask.bits = cidr.network.bits :=
  beq_iff_eq

/-- An address lies in a network exactly if it agrees with it in the leading bits. -/
theorem contains_iff_leading {cidr : Cidr} {address : Ipv4} :
    cidr.contains address = true ↔
      address.leading cidr.prefixLength = cidr.address.leading cidr.prefixLength := by
  rw [contains_iff_masked, ← UInt32.toNat_inj, toNat_and_mask, toNat_network,
    Nat.mul_left_inj (Nat.two_pow_pos _).ne']

/-- Addresses in one network are in one network also under every shorter prefix. -/
theorem contains_of_shorter {narrow wide : Cidr} {address : Ipv4}
    (shorter : wide.prefixLength ≤ narrow.prefixLength)
    (first : narrow.contains wide.address = true) (second : narrow.contains address = true) :
    wide.contains address = true := by
  have same := (contains_iff_leading.mp second).trans (contains_iff_leading.mp first).symm
  exact contains_iff_leading.mpr (Ipv4.leading_mono shorter narrow.prefixLength_le same)

/-- Whether every address of a network is one of another network. -/
def Within (inner outer : Cidr) : Prop :=
  ∀ address, inner.contains address = true → outer.contains address = true

/-- Whether two networks have no address in common. -/
def Apart (first second : Cidr) : Prop :=
  ∀ address, ¬ (first.contains address = true ∧ second.contains address = true)

/-- Whether two hosts reach each other on the link: each address lies in the network of the other
one. -/
def OnLink (first second : Cidr) : Prop :=
  first.contains second.address = true ∧ second.contains first.address = true

theorem within_of_contains {inner outer : Cidr} (shorter : outer.prefixLength ≤ inner.prefixLength)
    (inside : outer.contains inner.address = true) : Within inner outer := by
  intro address contained
  have same := Ipv4.leading_mono shorter inner.prefixLength_le (contains_iff_leading.mp contained)
  exact contains_iff_leading.mpr (same.trans (contains_iff_leading.mp inside))

/-- Addresses in one network are on the link if their prefixes are no longer than that network's. -/
theorem onLink_of_contains {network first second : Cidr}
    (firstShorter : first.prefixLength ≤ network.prefixLength)
    (secondShorter : second.prefixLength ≤ network.prefixLength)
    (firstInside : network.contains first.address = true)
    (secondInside : network.contains second.address = true) : OnLink first second :=
  ⟨contains_of_shorter firstShorter firstInside secondInside,
    contains_of_shorter secondShorter secondInside firstInside⟩

/-- A network ends where the address space does or before. -/
theorem network_add_size_le (cidr : Cidr) :
    cidr.network.bits.toNat + 2 ^ (32 - cidr.prefixLength) ≤ 2 ^ 32 := by
  have whole : 2 ^ cidr.prefixLength * 2 ^ (32 - cidr.prefixLength) = 2 ^ 32 := by
    rw [← Nat.pow_add, Nat.add_sub_cancel' cidr.prefixLength_le]
  have bounded : cidr.address.leading cidr.prefixLength < 2 ^ cidr.prefixLength := by
    apply Nat.div_lt_of_lt_mul
    rw [Nat.mul_comm, whole]
    exact cidr.address.bits.toNat_lt
  rw [toNat_network, ← whole, ← Nat.succ_mul]
  exact Nat.mul_le_mul_right _ bounded

/-- The addresses of a network are those from the network's own on, as many as there are hosts. -/
theorem contains_iff_range {cidr : Cidr} {address : Ipv4} :
    cidr.contains address = true ↔ cidr.network.bits.toNat ≤ address.bits.toNat ∧
      address.bits.toNat ≤ cidr.network.bits.toNat + 2 ^ (32 - cidr.prefixLength) - 1 := by
  rw [contains_iff_leading, Ipv4.leading, Nat.div_eq_iff (Nat.two_pow_pos _), toNat_network]

/-- The address after that of the network lies in the network, unless that has one address only. -/
theorem contains_network_advance {cidr : Cidr} (room : cidr.prefixLength ≤ 31) :
    cidr.contains (cidr.network.advance 1) = true := by
  have two : 2 ≤ 2 ^ (32 - cidr.prefixLength) :=
    Nat.pow_le_pow_right (by decide : 0 < 2) (by omega : 1 ≤ 32 - cidr.prefixLength)
  have fits := cidr.network_add_size_le
  -- The next address does not wrap, since a network with two addresses has room for it.
  have next : (cidr.network.advance 1).bits.toNat = cidr.network.bits.toNat + 1 := by
    rw [Ipv4.advance, UInt32.toNat_add]
    exact Nat.mod_eq_of_lt (show cidr.network.bits.toNat + 1 < 2 ^ 32 by omega)
  rw [contains_iff_range, next]
  omega

end Cidr

end OverlayNet
