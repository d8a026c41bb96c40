import Mathlib
import OverlayNet.Proofs.Address.Networks
import OverlayNet.Proofs.Address.TextReading
import OverlayNet.Proofs.Procedure

set_option autoImplicit false

/-! # Views of a network

Whether an address lies in a network can be told from the mask, from the leading bits, or from the
range between the first and the last address. However an address with a prefix length has come
about, its prefix fits an address, so any library of networks has a network for it and shows the
same views of it. -/

namespace OverlayNet

namespace Ipv4

/-- Whether two addresses agree in as many leading bits as a prefix is long. -/
def AgreeOn (length : Nat) (first second : Ipv4) : Prop :=
  ∀ position, 32 - length ≤ position → position < 32 →
    first.bits.toNat.testBit position = second.bits.toNat.testBit position

private theorem agreeOn_iff_leading {length : Nat} {first second : Ipv4} :
    AgreeOn length first second ↔ first.leading length = second.leading length := by
  constructor
  · intro agree
    apply Nat.eq_of_testBit_eq
    intro position
    rw [leading, leading, Nat.testBit_div_two_pow, Nat.testBit_div_two_pow]
    by_cases inside : position + (32 - length) < 32
    · exact agree _ (Nat.le_add_left _ _) inside
    · rw [testBit_beyond first.bits.toNat_lt (Nat.le_of_not_lt inside),
        testBit_beyond second.bits.toNat_lt (Nat.le_of_not_lt inside)]
  · intro same position leads _
    have bit := congrArg (Nat.testBit · (position - (32 - length))) same
    simpa [leading, Nat.testBit_div_two_pow, Nat.sub_add_cancel leads] using bit

end Ipv4

namespace Cidr

section Constructions

/-- How an address with a prefix length comes about: it is read or put together, and then its prefix
length is changed or hosts are counted on, any number of times. -/
inductive Construction where
  | parse (text : String)
  | new (address : Ipv4) (length : Nat)
  | withPrefix (base : Construction) (length : Nat)
  | offset (base : Construction) (hosts : UInt32)

namespace Construction

def build : Construction → Except Defect Cidr
  | .parse text => Cidr.parse text
  | .new address length => new? address length
  | .withPrefix base length => do (← base.build).withPrefix length
  | .offset base hosts => return (← base.build).offset hosts

/-- The prefix length that is asked for last, whether it is possible or not. -/
def asked? : Construction → Option Nat
  | .parse text => (Text.cutLast? '/' text.toList).bind fun (_, after) =>
      Decimal.unsigned? 256 after
  | .new _ length => some length
  | .withPrefix _ length => some length
  | .offset base _ => base.asked?

end Construction

theorem new?_eq_ok_iff {address : Ipv4} {length : Nat} {cidr : Cidr} :
    new? address length = .ok cidr ↔
      length ≤ 32 ∧ cidr.address = address ∧ cidr.prefixLength = length := by
  rw [new?]
  constructor
  · intro built
    split at built
    case isTrue possible =>
      obtain rfl := Except.ok.inj built
      exact ⟨possible, rfl, rfl⟩
    case isFalse => cases built
  · rintro ⟨possible, rfl, rfl⟩
    rw [dif_pos possible]

/-- What is built has the prefix length that was asked for, which is never cut down to fit. -/
theorem Construction.asked?_of_build {construction : Construction} {cidr : Cidr}
    (built : construction.build = .ok cidr) :
    construction.asked? = some cidr.prefixLength ∧ cidr.prefixLength ≤ 32 := by
  refine ⟨?_, cidr.prefixLength_le⟩
  -- Counting hosts on keeps the prefix length, every other way names one that is checked.
  induction construction generalizing cidr with
  | parse text =>
      obtain ⟨before, after, split, last, -, length⟩ := parse_eq_ok_iff.mp built
      rw [asked?, Text.cutLast?_eq_some_iff.mpr ⟨split, last⟩, Option.bind_some]
      exact prefixLength?_eq_some_iff.mp length
  | new address length =>
      obtain ⟨-, -, same⟩ := new?_eq_ok_iff.mp built
      rw [asked?, same]
  | withPrefix base length ih =>
      obtain ⟨value, -, changed⟩ := exceptBind_eq_ok_iff.mp built
      rw [withPrefix_eq_new?] at changed
      obtain ⟨-, -, same⟩ := new?_eq_ok_iff.mp changed
      rw [asked?, same]
  | offset base hosts ih =>
      obtain ⟨value, first, counted⟩ := exceptBind_eq_ok_iff.mp built
      obtain rfl := Except.ok.inj counted
      have kept : base.asked? = some value.prefixLength := ih first
      exact kept

end Constructions

end Cidr

/-- What a library of networks offers: networks made from an address with a prefix length, which may
be refused, or from a single address, and the views of a network. -/
structure NetworkLibrary where
  Network : Type
  new? : Ipv4 → Nat → Option Network
  single : Ipv4 → Network
  mask : Network → Ipv4
  lowest : Network → Ipv4
  contains : Network → Ipv4 → Bool

/-- Whether a library does what is expected of one. Prefix lengths up to thirty-two are accepted and
no others. The mask of a network has as many leading ones as the prefix is long, and zeros behind
them. The addresses in a network are those that the mask does not tell apart from the address that
it was made from, and the one that stands for the network is the lowest of them. -/
structure NetworkLibrary.Documented (library : NetworkLibrary) : Prop where
  accepts : ∀ address length, (∃ network, library.new? address length = some network) ↔ length ≤ 32
  mask : ∀ address length network, library.new? address length = some network →
    ∀ position < 32, (library.mask network).bits.toNat.testBit position =
      decide (32 - length ≤ position)
  contains : ∀ address length network, library.new? address length = some network →
    ∀ other, library.contains network other = true ↔
      other.bits &&& (library.mask network).bits = address.bits &&& (library.mask network).bits
  lowest : ∀ address length network, library.new? address length = some network →
    library.contains network (library.lowest network) = true ∧
      ∀ other, library.contains network other = true →
        (library.lowest network).bits.toNat ≤ other.bits.toNat

namespace Cidr

/-- The network of an address with a prefix length in a library, or that of the address alone if the
library refuses the prefix length. -/
def asNetwork (library : NetworkLibrary) (cidr : Cidr) : library.Network :=
  (library.new? cidr.address cidr.prefixLength).getD (library.single cidr.address)

section Libraries

variable {library : NetworkLibrary} (documented : library.Documented) {cidr : Cidr}
  {network : library.Network} (made : library.new? cidr.address cidr.prefixLength = some network)

include documented made

private theorem library_mask_eq : library.mask network = cidr.mask := by
  have bits : (library.mask network).bits = cidr.mask.bits := by
    rw [← UInt32.toNat_inj]
    apply Nat.eq_of_testBit_eq
    intro position
    by_cases inside : position < 32
    · rw [documented.mask _ _ _ made position inside, toNat_mask,
        Ipv4.testBit_leadingOnes cidr.prefixLength_le inside]
    · rw [Ipv4.testBit_beyond (UInt32.toNat_lt _) (Nat.le_of_not_lt inside),
        Ipv4.testBit_beyond (UInt32.toNat_lt _) (Nat.le_of_not_lt inside)]
  exact congrArg Ipv4.mk bits

private theorem library_contains_eq (address : Ipv4) :
    library.contains network address = cidr.contains address := by
  rw [Bool.eq_iff_iff, documented.contains _ _ _ made, library_mask_eq documented made,
    contains_iff_masked, Cidr.network]

private theorem library_lowest_eq : library.lowest network = cidr.network := by
  obtain ⟨inside, least⟩ := documented.lowest _ _ _ made
  have own : cidr.contains cidr.network = true :=
    contains_iff_range.mpr ⟨Nat.le_refl _, Nat.le_sub_one_of_lt
      (Nat.lt_add_of_pos_right (Nat.two_pow_pos _))⟩
  rw [library_contains_eq documented made] at inside
  have below := least cidr.network ((library_contains_eq documented made _).trans own)
  have above := (contains_iff_range.mp inside).1
  exact congrArg Ipv4.mk (UInt32.toNat_inj.mp (Nat.le_antisymm below above))

end Libraries

end Cidr

section Shifting

/-- A mask of ones that are shifted to the left. A word cannot be shifted by all of its bits, so no
ones at all are a case of their own. -/
def shiftedMask (length : Nat) : UInt32 :=
  if length = 0 then 0 else 0xffffffff <<< UInt32.ofNat (32 - length)

/-- A library of networks that keeps the address and the prefix length and shifts its masks. -/
def shiftingLibrary : NetworkLibrary where
  Network := Ipv4 × Nat
  new? address length := if length ≤ 32 then some (address, length) else none
  single address := (address, 32)
  mask network := ⟨shiftedMask network.2⟩
  lowest network := ⟨network.1.bits &&& shiftedMask network.2⟩
  contains network other :=
    other.bits &&& shiftedMask network.2 == network.1.bits &&& shiftedMask network.2

theorem toNat_shiftedMask {length : Nat} (possible : length ≤ 32) :
    (shiftedMask length).toNat = 2 ^ 32 - 2 ^ (32 - length) := by
  have all : ∀ length : Fin 33, (shiftedMask length).toNat = 2 ^ 32 - 2 ^ (32 - length.val) := by
    decide +kernel
  exact all ⟨length, Nat.lt_succ_of_le possible⟩

private theorem documented_shiftingLibrary : shiftingLibrary.Documented := by
  have parts : ∀ address length network, shiftingLibrary.new? address length = some network →
      length ≤ 32 ∧ network = (address, length) := by
    intro address length network made
    obtain ⟨possible, same⟩ := Option.ite_none_right_eq_some.mp made
    exact ⟨possible, (Option.some.inj same).symm⟩
  constructor
  case accepts =>
    intro address length
    simp [shiftingLibrary]
  case mask =>
    intro address length network made position inside
    obtain ⟨possible, rfl⟩ := parts _ _ _ made
    rw [← Ipv4.testBit_leadingOnes possible inside, ← toNat_shiftedMask possible]
    rfl
  case contains =>
    intro address length network made other
    obtain ⟨-, rfl⟩ := parts _ _ _ made
    exact beq_iff_eq
  case lowest =>
    intro address length network made
    obtain ⟨-, rfl⟩ := parts _ _ _ made
    constructor
    · simp [shiftingLibrary, UInt32.and_assoc]
    · intro other inside
      have same : other.bits &&& shiftedMask length = address.bits &&& shiftedMask length :=
        beq_iff_eq.mp inside
      have below : (other.bits &&& shiftedMask length).toNat ≤ other.bits.toNat := by
        rw [UInt32.toNat_and]
        exact Nat.and_le_left
      rw [same] at below
      exact below

end Shifting

namespace Cidr

/-- Of two networks the one with the longer prefix is part of the other, or they have nothing in
common. -/
theorem within_or_apart {inner outer : Cidr} (shorter : outer.prefixLength ≤ inner.prefixLength) :
    Within inner outer ∨ Apart inner outer := by
  by_cases inside : outer.contains inner.address = true
  · exact .inl (within_of_contains shorter inside)
  · right
    rintro address ⟨inInner, inOuter⟩
    apply inside
    have same := Ipv4.leading_mono shorter inner.prefixLength_le (contains_iff_leading.mp inInner)
    exact contains_iff_leading.mpr (same.symm.trans (contains_iff_leading.mp inOuter))

/-- However an address with a prefix length is put together, it has the prefix length that was asked
for, which is at most thirty-two. So a library of networks never refuses it, and shows of its
network what is computed here. That an address lies in it, that the mask makes it the network's
address, that it agrees in the leading bits, and that it lies in the range of the network, which
does not wrap, are all the same. So the bits behind the prefix make no difference, and of two
networks the one with the longer prefix lies in the other or apart from it. -/
theorem prefix_views_agree {library : NetworkLibrary} (documented : library.Documented) :
    (∀ (construction : Construction) (cidr : Cidr), construction.build = .ok cidr →
      construction.asked? = some cidr.prefixLength ∧ cidr.prefixLength ≤ 32) ∧
    ∀ cidr : Cidr,
      (∃ network, library.new? cidr.address cidr.prefixLength = some network ∧
        cidr.asNetwork library = network ∧ library.mask network = cidr.mask ∧
        library.lowest network = cidr.network ∧
        ∀ address, library.contains network address = cidr.contains address) ∧
      (∀ address : Ipv4, [
        cidr.contains address = true,
        address.bits &&& cidr.mask.bits = cidr.network.bits,
        Ipv4.AgreeOn cidr.prefixLength address cidr.address,
        cidr.network.bits.toNat ≤ address.bits.toNat ∧
          address.bits.toNat ≤
            cidr.network.bits.toNat + 2 ^ (32 - cidr.prefixLength) - 1].TFAE) ∧
      cidr.network.bits.toNat + 2 ^ (32 - cidr.prefixLength) ≤ 2 ^ 32 ∧
      (∀ other : Cidr, other.prefixLength = cidr.prefixLength →
        Ipv4.AgreeOn cidr.prefixLength other.address cidr.address →
        ∀ address, other.contains address = cidr.contains address) ∧
      ∀ other : Cidr, cidr.prefixLength ≤ other.prefixLength →
        Within other cidr ∨ Apart other cidr := by
  refine ⟨fun _ _ => Construction.asked?_of_build, fun cidr => ⟨?library, ?views,
    cidr.network_add_size_le, ?hostBits, fun _ => within_or_apart⟩⟩
  case library =>
    obtain ⟨network, made⟩ := (documented.accepts cidr.address _).mpr cidr.prefixLength_le
    refine ⟨network, made, ?_, library_mask_eq documented made, library_lowest_eq documented made,
      library_contains_eq documented made⟩
    rw [asNetwork, made, Option.getD_some]
  case views =>
    intro address
    tfae_have 1 ↔ 2 := contains_iff_masked
    tfae_have 1 ↔ 3 := contains_iff_leading.trans Ipv4.agreeOn_iff_leading.symm
    tfae_have 1 ↔ 4 := contains_iff_range
    tfae_finish
  case hostBits =>
    intro other sameLength agree address
    rw [Bool.eq_iff_iff, contains_iff_leading, contains_iff_leading, sameLength,
      Ipv4.agreeOn_iff_leading.mp agree]

/-- An address with host bits, read and then changed to the empty prefix, and a network around it.
-/
theorem prefix_views_agree_shifting :
    shiftingLibrary.Documented ∧
    Construction.build (.offset (.withPrefix (.parse "10.1.7.9/16") 0) 5) =
      .ok ⟨⟨0x0a01070e⟩, 0, by decide⟩ ∧
    Construction.asked? (.offset (.withPrefix (.parse "10.1.7.9/16") 0) 5) = some 0 ∧
    (∃ network, shiftingLibrary.new? ⟨0x0a010709⟩ 16 = some network ∧
      asNetwork shiftingLibrary ⟨⟨0x0a010709⟩, 16, by decide⟩ = network) ∧
    contains ⟨⟨0x0a010709⟩, 16, by decide⟩ ⟨0x0a01ffff⟩ = true ∧
    Ipv4.AgreeOn 16 ⟨0x0a01ffff⟩ ⟨0x0a010709⟩ ∧
    ∀ address, contains ⟨⟨0x0a010000⟩, 16, by decide⟩ address =
      contains ⟨⟨0x0a010709⟩, 16, by decide⟩ address := by
  have built : Construction.build (.offset (.withPrefix (.parse "10.1.7.9/16") 0) 5) =
      .ok ⟨⟨0x0a01070e⟩, 0, by decide⟩ := by
    decide +kernel
  obtain ⟨bounded, views⟩ := prefix_views_agree documented_shiftingLibrary
  obtain ⟨⟨network, made, taken, -⟩, same, -, hostBits, -⟩ :=
    views ⟨⟨0x0a010709⟩, 16, by decide⟩
  have last := (same ⟨0x0a01ffff⟩).out 3 0
  have inside := last.mp ⟨by decide, by decide⟩
  have lastAgrees := (same ⟨0x0a01ffff⟩).out 0 2
  have first := (same ⟨0x0a010000⟩).out 3 2
  have agree := first.mp ⟨by decide, by decide⟩
  exact ⟨documented_shiftingLibrary, built, (bounded _ _ built).1, ⟨network, made, taken⟩, inside,
    lastAgrees.mp inside, hostBits ⟨⟨0x0a010000⟩, 16, by decide⟩ rfl agree⟩

end Cidr

end OverlayNet
