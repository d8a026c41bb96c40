import Mathlib
import OverlayNet.Address.Cidr
import OverlayNet.Fault
import OverlayNet.Proofs.Netlink.Words
import OverlayNet.Text.Blank

set_option autoImplicit false

/-! # Texts of addresses, read back

The text of an address, with a prefix length or without, is read as that address. -/

namespace OverlayNet

namespace Decimal

theorem isDigit_of_mem_digits {number : Nat} {character : Char}
    (member : character ∈ digits number) : isDigit character = true := by
  have digit := Nat.isDigit_of_mem_toDigits (by decide) (by decide) member
  simp only [Char.isDigit, ge_iff_le, Bool.and_eq_true, decide_eq_true_eq] at digit
  simpa [isDigit, Char.le_def] using digit

theorem digits_ne_nil (number : Nat) : digits number ≠ [] :=
  Nat.toDigits_ne_nil

theorem not_mem_digits {character : Char} (other : isDigit character = false) (number : Nat) :
    character ∉ digits number := by
  intro member
  rw [isDigit_of_mem_digits member] at other
  cases other

private theorem unsigned?_digits {bound number : Nat} (small : number < bound) :
    unsigned? bound (digits number) = some number := by
  have unsigned : ∀ rest, digits number ≠ '+' :: rest := by
    intro rest same
    have plus : '+' ∈ digits number := by
      rw [same]
      exact List.mem_cons_self
    exact not_mem_digits rfl number plus
  unfold unsigned?
  split
  case h_1 rest same => exact absurd same (unsigned rest)
  case h_2 => simp [digits?_digits, small]

private theorem isBlank_of_isDigit {character : Char} (digit : isDigit character = true) :
    Text.isBlank character = false := by
  simp only [isDigit, Bool.and_eq_true, decide_eq_true_eq, Char.le_def, UInt32.le_iff_toNat_le]
    at digit
  obtain ⟨low, high⟩ := digit
  have lower : 48 ≤ character.toNat := low
  have upper : character.toNat ≤ 57 := high
  simp only [Text.isBlank, Text.blankRanges, List.any_cons, List.any_nil, Bool.or_false,
    Bool.or_eq_false_iff, Bool.and_eq_false_iff, decide_eq_false_iff_not]
  omega

end Decimal

namespace Ipv4

theorem octet?_digits (octet : UInt8) : octet? (Decimal.digits octet.toNat) = some octet := by
  have all : ∀ number : Fin 256,
      octet? (Decimal.digits number.val) = some (UInt8.ofNat number.val) := by
    decide +kernel
  have read := all ⟨octet.toNat, octet.toNat_lt⟩
  rw [read, UInt8.ofNat_toNat]

private theorem mapM_octet?_digits (octets : List UInt8) :
    (octets.map fun octet => Decimal.digits octet.toNat).mapM octet? = some octets := by
  induction octets with
  | nil => rfl
  | cons first rest ih =>
      rw [List.map_cons, List.mapM_cons, octet?_digits, ih]
      rfl

theorem ofOctets_eq_word32 (first second third fourth : UInt8) :
    ofOctets first second third fourth = ⟨Bytes.word32 fourth third second first⟩ := by
  have reversed : ∀ a b c d : UInt32, a ||| b ||| c ||| d = d ||| c ||| b ||| a := by
    intro a b c d
    rw [UInt32.or_comm _ d, UInt32.or_comm _ c, UInt32.or_comm a b, UInt32.or_assoc,
      UInt32.or_assoc]
  exact congrArg Ipv4.mk (reversed _ _ _ _)

private theorem ofOctets_octets (address : Ipv4) :
    ofOctets (address.bits >>> 24).toUInt8 (address.bits >>> 16).toUInt8
      (address.bits >>> 8).toUInt8 address.bits.toUInt8 = address := by
  rw [ofOctets_eq_word32, Bytes.word32_littleEndian32]

theorem ofCharacters?_characters (address : Ipv4) :
    ofCharacters? address.characters = some address := by
  have parts : address.characters.splitOn '.' =
      address.octets.map fun octet => Decimal.digits octet.toNat := by
    apply List.splitOn_intercalate
    · intro part member
      obtain ⟨octet, -, rfl⟩ := List.mem_map.mp member
      exact Decimal.not_mem_digits rfl _
    · exact List.cons_ne_nil _ _
  rw [ofCharacters?, parts, mapM_octet?_digits]
  exact congrArg some (ofOctets_octets address)

theorem ofText?_text (address : Ipv4) : ofText? address.text = some address := by
  rw [ofText?, text, String.toList_ofList, ofCharacters?_characters]

end Ipv4

namespace Cidr

theorem prefixLength?_eq_some_iff {characters : List Char} {length : { length // length ≤ 32 }} :
    prefixLength? characters = some length ↔
      Decimal.unsigned? 256 characters = some length.val := by
  rw [prefixLength?]
  cases read : Decimal.unsigned? 256 characters with
  | none => simp
  | some value =>
      constructor
      · intro bounded
        dsimp only at bounded
        split at bounded
        · rw [← Option.some.inj bounded]
        · cases bounded
      · intro same
        obtain rfl := Option.some.inj same
        simp [length.property]

private theorem prefixLength?_digits {length : Nat} (possible : length ≤ 32) :
    prefixLength? (Decimal.digits length) = some ⟨length, possible⟩ :=
  prefixLength?_eq_some_iff.mpr (Decimal.unsigned?_digits (by omega))

/-- A text is read as an address and a prefix length exactly if it is their two texts around its
last slash. -/
theorem parse_eq_ok_iff {text : String} {cidr : Cidr} :
    parse text = .ok cidr ↔ ∃ before after, text.toList = before ++ '/' :: after ∧ '/' ∉ after ∧
      Ipv4.ofCharacters? before = some cidr.address ∧
      prefixLength? after = some ⟨cidr.prefixLength, cidr.prefixLength_le⟩ := by
  rw [parse]
  constructor
  · intro read
    cases cut : Text.cutLast? '/' text.toList with
    | none =>
        rw [cut] at read
        cases read
    | some parts =>
        obtain ⟨before, after⟩ := parts
        obtain ⟨split, last⟩ := Text.cutLast?_eq_some_iff.mp cut
        refine ⟨before, after, split, last, ?_⟩
        simp only [cut] at read
        cases address : Ipv4.ofCharacters? before with
        | none =>
            rw [address] at read
            cases read
        | some found =>
            simp only [address] at read
            cases length : prefixLength? after with
            | none =>
                rw [length] at read
                cases read
            | some bounded =>
                rw [length] at read
                obtain rfl := Except.ok.inj read
                exact ⟨rfl, rfl⟩
  · rintro ⟨before, after, split, last, address, length⟩
    simp only [Text.cutLast?_eq_some_iff.mpr ⟨split, last⟩, address, length]

private theorem toList_text (cidr : Cidr) :
    cidr.text.toList =
      cidr.address.characters ++ '/' :: Decimal.digits cidr.prefixLength := by
  simp [text, textOf, Ipv4.text, Decimal.text]

/-- What is written for an address with a prefix length is read back as that pair. -/
theorem parse_text (cidr : Cidr) : parse cidr.text = .ok cidr :=
  parse_eq_ok_iff.mpr ⟨_, _, toList_text cidr, Decimal.not_mem_digits rfl _,
    Ipv4.ofCharacters?_characters _, prefixLength?_digits _⟩

theorem read_text (cidr : Cidr) : read cidr.text = .ok cidr := by
  rw [read, parse_text]
  rfl

/-- The text of an address with a prefix length has no blank at its end. -/
theorem trimEnd_text (cidr : Cidr) : Text.trimEnd cidr.text.toList = cidr.text.toList := by
  apply Text.trimEnd_eq_self
  intro last ends
  have inDigits : last ∈ Decimal.digits cidr.prefixLength := by
    have nonempty := Decimal.digits_ne_nil cidr.prefixLength
    rw [toList_text, List.getLast?_append, List.getLast?_cons_of_ne_nil nonempty] at ends
    rw [List.getLast?_eq_getLast_of_ne_nil nonempty] at ends
    obtain rfl := Option.some.inj ends
    exact List.getLast_mem nonempty
  exact Decimal.isBlank_of_isDigit (Decimal.isDigit_of_mem_digits inDigits)

end Cidr

end OverlayNet
