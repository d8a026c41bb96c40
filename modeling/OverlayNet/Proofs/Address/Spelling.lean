import Mathlib
import OverlayNet.Proofs.Address.TextReading

set_option autoImplicit false

/-! # What is read as an address with a prefix length

A text is read as an address with a prefix length exactly if it is the dotted quad of that address,
a slash, and digits that name the length, perhaps behind a plus sign and zeros. Any other text is
refused, and the fault quotes it and names the first part that is missing or wrong. So whatever is
read consists of digits and the few marks between them. -/

namespace OverlayNet

namespace Decimal

/-- The number that a run of digits names, the last digit counting the ones. -/
def value (run : List Char) : Nat :=
  Nat.ofDigits 10 (run.reverse.map fun character => character.toNat - '0'.toNat)

/-- Whether a run of ASCII digits, at least one, names a number. Zeros may stand in front. -/
structure Names (run : List Char) (number : Nat) : Prop where
  nonempty : run ≠ []
  covered : ∀ character ∈ run, '0' ≤ character ∧ character ≤ '9'
  valued : value run = number

/-- Whether characters spell a number: digits that name it, after at most one plus sign. -/
def Spells (characters : List Char) (number : Nat) : Prop :=
  Names characters number ∨ ∃ run, characters = '+' :: run ∧ Names run number

section Runs

variable {run characters : List Char} {number : Nat}

private theorem value_append_digit (front : List Char) (last : Char) :
    value (front ++ [last]) = 10 * value front + (last.toNat - '0'.toNat) := by
  rw [value, List.reverse_append, List.reverse_singleton, List.singleton_append, List.map_cons,
    Nat.ofDigits_cons, Nat.add_comm]
  rfl

private theorem ofDigitChars_eq_value (run : List Char) :
    Nat.ofDigitChars 10 run 0 = value run := by
  rw [value, Nat.ofDigits_eq_foldr, List.foldr_map, List.foldr_reverse, Nat.ofDigitChars_eq_foldl]
  simp [Nat.add_comm]

theorem digits?_eq_some_iff : digits? run = some number ↔ Names run number := by
  have covered_iff : run.all isDigit = true ↔
      ∀ character ∈ run, '0' ≤ character ∧ character ≤ '9' := by
    simp [isDigit]
  rw [digits?, ofDigitChars_eq_value]
  constructor
  · intro read
    split at read
    · cases read
    · rename_i plain
      rw [Bool.or_eq_true, Bool.not_eq_true', not_or, Bool.not_eq_false, List.isEmpty_iff] at plain
      exact ⟨plain.1, covered_iff.mp plain.2, Option.some.inj read⟩
  · rintro ⟨nonempty, covered, valued⟩
    have notEmpty : run.isEmpty = false := by simp [nonempty]
    rw [notEmpty, covered_iff.mpr covered, valued]
    rfl

theorem Names.not_mem (names : Names run number) {mark : Char} (outside : mark < '0') :
    mark ∉ run := by
  intro member
  exact absurd (names.covered mark member).1 (not_le.mpr outside)

private theorem Spells.slash_not_mem (spells : Spells characters number) : '/' ∉ characters := by
  rcases spells with names | ⟨run, rfl, names⟩
  · exact names.not_mem (by decide)
  · have unmarked : '/' ∉ run := names.not_mem (by decide)
    simpa using unmarked

/-- Characters spell one number at most, since the digits do not begin with a plus sign. -/
theorem Spells.unique {other : Nat} (spells : Spells characters number)
    (also : Spells characters other) : number = other := by
  have unsigned : ∀ {run number}, ¬ Names ('+' :: run) number :=
    fun names => names.not_mem (by decide) List.mem_cons_self
  rcases spells with names | ⟨run, rfl, names⟩
  · rcases also with others | ⟨run, rfl, others⟩
    · exact names.valued.symm.trans others.valued
    · exact absurd names unsigned
  · rcases also with others | ⟨rest, same, others⟩
    · exact absurd others unsigned
    · rw [(List.cons.inj same).2] at names
      exact names.valued.symm.trans others.valued

theorem unsigned?_eq_some_iff {bound : Nat} :
    unsigned? bound characters = some number ↔ Spells characters number ∧ number < bound := by
  simp only [unsigned?, Option.filter_eq_some_iff, digits?_eq_some_iff, decide_eq_true_eq]
  apply and_congr_left'
  split
  case h_1 run =>
    constructor
    · exact fun names => .inr ⟨run, rfl, names⟩
    · rintro (names | ⟨others, same, names⟩)
      · exact absurd List.mem_cons_self (names.not_mem (by decide))
      · rwa [(List.cons.inj same).2]
  case h_2 unsigned =>
    constructor
    · exact .inl
    · rintro (names | ⟨run, same, -⟩)
      · exact names
      · exact absurd same (unsigned run)

private theorem Spells.character_cases (spells : Spells characters number) {character : Char}
    (member : character ∈ characters) : character = '+' ∨ isDigit character = true := by
  have digit : ∀ {run number}, Names run number → character ∈ run →
      isDigit character = true := by
    intro run number names inside
    simpa [isDigit] using names.covered character inside
  rcases spells with names | ⟨run, rfl, names⟩
  · exact .inr (digit names member)
  · rcases List.mem_cons.mp member with rfl | behind
    · exact .inl rfl
    · exact .inr (digit names behind)

private theorem digits_of_digit {character : Char} (low : '0' ≤ character)
    (high : character ≤ '9') :
    digits (character.toNat - '0'.toNat) = [character] := by
  have lower : 48 ≤ character.toNat := low
  have upper : character.toNat ≤ 57 := high
  have all : ∀ digit : Fin 10, digits digit.val = [Char.ofNat (48 + digit.val)] := by decide
  have written := all ⟨character.toNat - 48, by omega⟩
  have position : 48 + (character.toNat - 48) = character.toNat := by omega
  rw [position, Char.ofNat_toNat] at written
  exact written

private theorem digits_append_digit {number : Nat} (positive : 0 < number) {last : Char}
    (low : '0' ≤ last) (high : last ≤ '9') :
    digits number ++ [last] = digits (10 * number + (last.toNat - '0'.toNat)) := by
  have upper : last.toNat ≤ 57 := high
  have zero : '0'.toNat = 48 := rfl
  rw [← digits_of_digit low high]
  exact Nat.toDigits_append_toDigits (by decide) positive (by omega)

/-- Digits without a zero in front are the ones with which the number is written. -/
theorem Names.eq_digits (names : Names run number)
    (plain : run.head? = some '0' → run = ['0']) : run = digits number := by
  induction run using List.reverseRecOn generalizing number with
  | nil => exact absurd rfl names.nonempty
  | append_singleton front last ih =>
      obtain ⟨-, covered, rfl⟩ := names
      obtain ⟨low, high⟩ := covered last (by simp)
      rw [value_append_digit]
      by_cases alone : front = []
      · subst alone
        simpa [value] using (digits_of_digit low high).symm
      have zeroless : front.head? ≠ some '0' := by
        intro zero
        have short := plain (by rw [List.head?_append, zero]; rfl)
        simp [List.append_eq_singleton_iff, alone] at short
      have frontCovered : ∀ character ∈ front, '0' ≤ character ∧ character ≤ '9' :=
        fun character inside => covered character (List.mem_append_left _ inside)
      have written := ih ⟨alone, frontCovered, rfl⟩ fun zero => absurd zero zeroless
      have positive : 0 < value front := by
        apply Nat.pos_of_ne_zero
        intro zero
        rw [zero] at written
        exact zeroless (written ▸ rfl)
      rw [← digits_append_digit positive low high, ← written]

end Runs

end Decimal

namespace Ipv4

variable {characters : List Char}

theorem octet?_eq_some_iff {octet : UInt8} :
    octet? characters = some octet ↔ characters = Decimal.digits octet.toNat := by
  constructor
  · intro read
    rw [octet?] at read
    split at read
    · rename_i short
      obtain ⟨number, bounded, rfl⟩ := Option.map_eq_some_iff.mp read
      obtain ⟨named, small⟩ := Option.filter_eq_some_iff.mp bounded
      have fits : number < 256 := by simpa using small
      rw [UInt8.toNat_ofNat_of_lt' fits]
      exact (Decimal.digits?_eq_some_iff.mp named).eq_digits short.2
    · cases read
  · rintro rfl
    exact octet?_digits octet

private theorem eq_digits_of_mapM_octet? {parts : List (List Char)} {octets : List UInt8}
    (read : parts.mapM octet? = some octets) :
    parts = octets.map fun octet => Decimal.digits octet.toNat := by
  induction parts generalizing octets with
  | nil =>
      obtain rfl := Option.some.inj read
      rfl
  | cons first rest ih =>
      rw [List.mapM_cons] at read
      obtain ⟨octet, firstRead, behind⟩ := Option.bind_eq_some_iff.mp read
      obtain ⟨others, restRead, whole⟩ := Option.bind_eq_some_iff.mp behind
      obtain rfl := Option.some.inj whole
      rw [List.map_cons, ← octet?_eq_some_iff.mp firstRead, ← ih restRead]

private theorem octets_ofOctets (first second third fourth : UInt8) :
    (ofOctets first second third fourth).octets = [first, second, third, fourth] := by
  have reversed : ∀ address : Ipv4,
      address.octets = (Bytes.littleEndian32 address.bits).reverse := fun _ => rfl
  rw [ofOctets_eq_word32, reversed, Bytes.littleEndian32_word32]
  rfl

/-- Nothing but its dotted quad is read as an address. -/
theorem ofCharacters?_eq_some_iff {address : Ipv4} :
    ofCharacters? characters = some address ↔ characters = address.characters := by
  constructor
  · intro read
    rw [ofCharacters?] at read
    split at read
    case h_1 first second third fourth parts =>
      obtain rfl := Option.some.inj read
      rw [Ipv4.characters, octets_ofOctets, ← eq_digits_of_mapM_octet? parts,
        List.intercalate_splitOn]
    case h_2 => cases read
  · rintro rfl
    exact ofCharacters?_characters address

theorem ofCharacters?_eq_none_iff :
    ofCharacters? characters = none ↔ ∀ address : Ipv4, characters ≠ address.characters := by
  simp only [Option.eq_none_iff_forall_ne_some, ne_eq, ofCharacters?_eq_some_iff]

theorem ofText?_eq_none_iff {text : String} :
    ofText? text = none ↔ ∀ address : Ipv4, text ≠ address.text := by
  rw [ofText?, ofCharacters?_eq_none_iff]
  apply forall_congr'
  intro address
  rw [Ipv4.text, ne_eq, ne_eq, ← String.toList_inj, String.toList_ofList]

private theorem mem_intercalate_singleton {separator character : Char} {parts : List (List Char)}
    (member : character ∈ [separator].intercalate parts) :
    character = separator ∨ ∃ part ∈ parts, character ∈ part := by
  induction parts with
  | nil => cases member
  | cons first rest ih =>
      cases rest with
      | nil =>
          rw [List.intercalate_singleton] at member
          exact .inr ⟨first, List.mem_cons_self, member⟩
      | cons next others =>
          rw [List.intercalate_cons_cons, List.mem_append, List.mem_append, List.mem_singleton]
            at member
          rcases member with (inFirst | mark) | behind
          · exact .inr ⟨first, List.mem_cons_self, inFirst⟩
          · exact .inl mark
          · rcases ih behind with mark | ⟨part, inRest, inside⟩
            · exact .inl mark
            · exact .inr ⟨part, List.mem_cons_of_mem first inRest, inside⟩

private theorem character_cases {address : Ipv4} {character : Char}
    (member : character ∈ address.characters) :
    character = '.' ∨ Decimal.isDigit character = true := by
  rcases mem_intercalate_singleton member with mark | ⟨part, inParts, inside⟩
  · exact .inl mark
  · obtain ⟨octet, -, rfl⟩ := List.mem_map.mp inParts
    exact .inr (Decimal.isDigit_of_mem_digits inside)

end Ipv4

namespace Cidr

variable {text before after : String}

theorem prefixLength?_eq_none_iff {characters : List Char} :
    prefixLength? characters = none ↔ ∀ length ≤ 32, ¬ Decimal.Spells characters length := by
  simp only [Option.eq_none_iff_forall_ne_some, ne_eq, prefixLength?_eq_some_iff,
    Decimal.unsigned?_eq_some_iff, Subtype.forall, not_and]
  constructor
  · exact fun refused length possible spells => refused length possible spells (by omega)
  · exact fun refused length possible spells => absurd spells (refused length possible)

private theorem prefixLength?_spelled {length : Nat} (possible : length ≤ 32)
    {characters : List Char} :
    prefixLength? characters = some ⟨length, possible⟩ ↔ Decimal.Spells characters length := by
  rw [prefixLength?_eq_some_iff, Decimal.unsigned?_eq_some_iff, and_iff_left]
  exact Nat.lt_of_le_of_lt possible (by decide)

/-- The characters of a text that is read as an address with a prefix length. -/
theorem character_of_parse {cidr : Cidr} (read : parse text = .ok cidr) {character : Char}
    (member : character ∈ text.toList) :
    character ∈ ['.', '/', '+'] ∨ Decimal.isDigit character = true := by
  obtain ⟨before, after, split, -, address, length⟩ := parse_eq_ok_iff.mp read
  rw [split, List.mem_append, List.mem_cons, Ipv4.ofCharacters?_eq_some_iff.mp address] at member
  rcases member with inAddress | rfl | inLength
  · rcases Ipv4.character_cases inAddress with rfl | digit
    · exact .inl (by simp)
    · exact .inr digit
  · exact .inl (by simp)
  · rcases ((prefixLength?_spelled _).mp length).character_cases inLength with rfl | digit
    · exact .inl (by simp)
    · exact .inr digit

private theorem toList_around_slash (before after : String) :
    (before ++ "/" ++ after).toList = before.toList ++ '/' :: after.toList := by
  simp

theorem read_eq_ok_iff {cidr : Cidr} :
    read text = .ok cidr ↔ ∃ length, text = cidr.address.text ++ "/" ++ length ∧
      Decimal.Spells length.toList cidr.prefixLength := by
  have same : read text = .ok cidr ↔ parse text = .ok cidr := by
    rw [read]
    cases parse text <;> simp [Except.mapError]
  rw [same, parse_eq_ok_iff]
  constructor
  · rintro ⟨before, after, split, -, address, length⟩
    refine ⟨String.ofList after, ?_, ?_⟩
    · rw [Ipv4.ofCharacters?_eq_some_iff] at address
      rw [← String.toList_inj, split, address, toList_around_slash]
      simp [Ipv4.text]
    · rw [String.toList_ofList]
      exact (prefixLength?_spelled cidr.prefixLength_le).mp length
  · rintro ⟨length, rfl, spells⟩
    refine ⟨cidr.address.characters, length.toList, ?_, spells.slash_not_mem,
      Ipv4.ofCharacters?_characters _, (prefixLength?_spelled _).mpr spells⟩
    rw [toList_around_slash, Ipv4.text, String.toList_ofList]

private theorem read_of_slashless (slashless : '/' ∉ text.toList) :
    read text = .error (.invalidCidr text "missing '/'") := by
  have cut := Text.cutLast?_eq_none_iff.mpr slashless
  rw [read, parse, cut]
  rfl

private theorem cutLast?_around_slash (last : '/' ∉ after.toList) :
    Text.cutLast? '/' (before ++ "/" ++ after).toList = some (before.toList, after.toList) :=
  Text.cutLast?_eq_some_iff.mpr ⟨toList_around_slash before after, last⟩

private theorem read_of_wrong_address (split : text = before ++ "/" ++ after)
    (last : '/' ∉ after.toList) (wrong : ∀ address : Ipv4, before ≠ address.text) :
    read text = .error (.invalidCidr text ("invalid IPv4 address '" ++ before ++ "'")) := by
  have unread : Ipv4.ofCharacters? before.toList = none := Ipv4.ofText?_eq_none_iff.mpr wrong
  have refused : parse text = .error (.addressInvalid before) := by
    simp only [parse, split, cutLast?_around_slash last, unread, String.ofList_toList]
  rw [read, refused]
  rfl

private theorem read_of_wrong_prefix {address : Ipv4} (split : text = address.text ++ "/" ++ after)
    (last : '/' ∉ after.toList) (wrong : ∀ length ≤ 32, ¬ Decimal.Spells after.toList length) :
    read text = .error (.invalidCidr text ("invalid prefix length '" ++ after ++ "'")) := by
  have addressRead : Ipv4.ofCharacters? address.text.toList = some address :=
    Ipv4.ofText?_text address
  have refused : parse text = .error (.prefixInvalid after) := by
    simp only [parse, split, cutLast?_around_slash last, addressRead,
      prefixLength?_eq_none_iff.mpr wrong, String.ofList_toList]
  rw [read, refused]
  rfl

/-- A text is read as an address with a prefix length exactly if it is the dotted quad of the
address, a slash, and digits for the length behind at most one plus sign. Any other text is refused
with a fault that quotes it: for want of a slash, or else for what stands before its last slash, or
else for what stands behind that. So the text of an address and a length is read back, unless the
length is more than thirty-two, and so is the text of whatever was read. -/
theorem reads_exactly_spelled_pairs (text : String) :
    (∀ cidr, read text = .ok cidr ↔ ∃ length, text = cidr.address.text ++ "/" ++ length ∧
      Decimal.Spells length.toList cidr.prefixLength) ∧
    ('/' ∉ text.toList → read text = .error (.invalidCidr text "missing '/'")) ∧
    (∀ before after, text = before ++ "/" ++ after → '/' ∉ after.toList →
      (∀ address : Ipv4, before ≠ address.text) →
      read text = .error (.invalidCidr text ("invalid IPv4 address '" ++ before ++ "'"))) ∧
    (∀ (address : Ipv4) after, text = address.text ++ "/" ++ after → '/' ∉ after.toList →
      (∀ length ≤ 32, ¬ Decimal.Spells after.toList length) →
      read text = .error (.invalidCidr text ("invalid prefix length '" ++ after ++ "'"))) ∧
    (∀ address length (possible : length ≤ 32),
      read (textOf address length) = .ok ⟨address, length, possible⟩) ∧
    (∀ address length, 32 < length → read (textOf address length) =
      .error (.invalidCidr (textOf address length)
        ("invalid prefix length '" ++ Decimal.text length ++ "'"))) ∧
    ∀ cidr, read text = .ok cidr → read cidr.text = .ok cidr := by
  refine ⟨fun _ => read_eq_ok_iff, read_of_slashless, fun _ _ => read_of_wrong_address,
    fun _ _ => read_of_wrong_prefix, ?written, ?tooLong, fun cidr _ => read_text cidr⟩
  case written =>
    exact fun address length possible => read_text ⟨address, length, possible⟩
  case tooLong =>
    intro address length long
    have digits : (Decimal.text length).toList = Decimal.digits length := String.toList_ofList
    have named : Decimal.Names (Decimal.digits length) length :=
      Decimal.digits?_eq_some_iff.mp (Decimal.digits?_digits length)
    apply read_of_wrong_prefix rfl
    · rw [digits]
      exact named.not_mem (by decide)
    · intro other possible spells
      rw [digits] at spells
      obtain rfl := spells.unique (.inl named)
      omega

/-- A length behind a sign and zeros, and a text with a fault of each kind. -/
theorem reads_exactly_spelled_pairs_signed :
    Decimal.Spells "+008".toList 8 ∧
      read "10.32.0.1/+008" = .ok ⟨⟨0x0a200001⟩, 8, by decide⟩ ∧
      read "10.32.0.1" = .error (.invalidCidr "10.32.0.1" "missing '/'") ∧
      read "10.32.0.01/8" =
        .error (.invalidCidr "10.32.0.01/8" "invalid IPv4 address '10.32.0.01'") ∧
      read "10.32.0.1/++8" = .error (.invalidCidr "10.32.0.1/++8" "invalid prefix length '++8'") ∧
      read (textOf ⟨0x0a200001⟩ 33) = .error (.invalidCidr (textOf ⟨0x0a200001⟩ 33)
        ("invalid prefix length '" ++ Decimal.text 33 ++ "'")) ∧
      read (Cidr.text ⟨⟨0x0a200001⟩, 8, by decide⟩) = .ok ⟨⟨0x0a200001⟩, 8, by decide⟩ := by
  have number : Decimal.unsigned? 256 "+008".toList = some 8 := by decide
  have spells : Decimal.Spells "+008".toList 8 := (Decimal.unsigned?_eq_some_iff.mp number).1
  obtain ⟨exactly, -, -, -, -, tooLong, again⟩ := reads_exactly_spelled_pairs "10.32.0.1/+008"
  obtain ⟨-, slashless, -⟩ := reads_exactly_spelled_pairs "10.32.0.1"
  obtain ⟨-, -, address, -⟩ := reads_exactly_spelled_pairs "10.32.0.01/8"
  obtain ⟨-, -, -, length, -⟩ := reads_exactly_spelled_pairs "10.32.0.1/++8"
  have written : Ipv4.text ⟨0x0a200001⟩ = "10.32.0.1" := by decide
  have read : read "10.32.0.1/+008" = .ok ⟨⟨0x0a200001⟩, 8, by decide⟩ :=
    (exactly _).mpr ⟨"+008", by rw [written]; rfl, spells⟩
  refine ⟨spells, read, slashless (by decide), ?_, ?_, tooLong _ _ (by decide), again _ read⟩
  · exact address "10.32.0.01" "8" rfl (by decide) (Ipv4.ofText?_eq_none_iff.mp (by decide))
  · exact length ⟨0x0a200001⟩ "++8" (by rw [written]; rfl) (by decide)
      (prefixLength?_eq_none_iff.mp (by decide))

end Cidr

end OverlayNet
