import Mathlib
import OverlayNet.Device.Name
import OverlayNet.Proofs.Text.Encoding

set_option autoImplicit false

/-! # Collisions of device names

The names of an attachment's devices spell one word, the mixed hashes of its three texts. So two
attachments share one of their names exactly if they share both, and exactly if their hashes mix to
the same word. Texts that differ in a single byte never collide; texts that change places always
do. -/

namespace OverlayNet

namespace Decimal

/-- The lower-case hexadecimal digits, each at the place of its value. -/
def hexadecimalAlphabet : List Char :=
  ['0', '1', '2', '3', '4', '5', '6', '7', '8', '9', 'a', 'b', 'c', 'd', 'e', 'f']

/-- The number that lower-case hexadecimal digits spell. -/
def hexadecimalValue (digits : List Char) : Nat :=
  digits.foldl (fun value digit => value * 16 + hexadecimalAlphabet.idxOf digit) 0

private theorem idxOf_digitChar {digit : Nat} (single : digit < 16) :
    hexadecimalAlphabet.idxOf digit.digitChar = digit := by
  interval_cases digit <;> rfl

theorem hexadecimalValue_append_digit (front : List Char) {digit : Nat} (single : digit < 16) :
    hexadecimalValue (front ++ [digit.digitChar]) = hexadecimalValue front * 16 + digit := by
  rw [hexadecimalValue, List.foldl_append, List.foldl_cons, List.foldl_nil, idxOf_digitChar single]
  rfl

theorem hexadecimalValue_zeros_append (count : Nat) (digits : List Char) :
    hexadecimalValue (List.replicate count '0' ++ digits) = hexadecimalValue digits := by
  induction count with
  | zero => rfl
  | succ count ih => exact ih

theorem hexadecimalValue_toDigits (number : Nat) :
    hexadecimalValue (Nat.toDigits 16 number) = number := by
  induction number using Nat.strongRecOn with
  | ind number ih =>
      by_cases single : number < 16
      · rw [Nat.toDigits_of_lt_base single, ← List.nil_append [_],
          hexadecimalValue_append_digit [] single]
        exact Nat.zero_add number
      · have last : number % 16 < 16 := Nat.mod_lt number (by decide)
        rw [Nat.toDigits_of_base_le (by decide) (Nat.le_of_not_lt single),
          hexadecimalValue_append_digit _ last, ih (number / 16) (by omega)]
        omega

private theorem mem_hexadecimalAlphabet_of_mem_toDigits {number : Nat} {digit : Char}
    (member : digit ∈ Nat.toDigits 16 number) : digit ∈ hexadecimalAlphabet := by
  have ofDigit {value : Nat} (single : value < 16) : value.digitChar ∈ hexadecimalAlphabet := by
    rw [← List.idxOf_lt_length_iff, idxOf_digitChar single]
    exact single
  induction number using Nat.strongRecOn with
  | ind number ih =>
      by_cases single : number < 16
      · rw [Nat.toDigits_of_lt_base single, List.mem_singleton] at member
        rw [member]
        exact ofDigit single
      · rw [Nat.toDigits_of_base_le (by decide) (Nat.le_of_not_lt single), List.mem_append,
          List.mem_singleton] at member
        rcases member with front | rfl
        · exact ih (number / 16) (by omega) front
        · exact ofDigit (Nat.mod_lt number (by decide))

theorem hexadecimalValue_hexadecimal8 (word : UInt32) :
    hexadecimalValue (hexadecimal8 word) = word.toNat := by
  rw [hexadecimal8, List.leftpad, hexadecimalValue_zeros_append, hexadecimalValue_toDigits]

theorem hexadecimal8_injective {first second : UInt32}
    (same : hexadecimal8 first = hexadecimal8 second) : first = second := by
  have values := congrArg hexadecimalValue same
  rw [hexadecimalValue_hexadecimal8, hexadecimalValue_hexadecimal8] at values
  exact UInt32.toNat_inj.mp values

theorem length_hexadecimal8 (word : UInt32) : (hexadecimal8 word).length = 8 := by
  have fits : (Nat.toDigits 16 word.toNat).length ≤ 8 :=
    (Nat.length_toDigits_le_iff (by decide) (by decide)).mpr word.toNat_lt
  rw [hexadecimal8, List.length_leftpad]
  exact Nat.max_eq_left fits

private theorem mem_hexadecimalAlphabet_of_mem_hexadecimal8 {word : UInt32} {digit : Char}
    (member : digit ∈ hexadecimal8 word) : digit ∈ hexadecimalAlphabet := by
  rw [hexadecimal8, List.leftpad, List.mem_append] at member
  rcases member with zero | digits
  · rw [List.eq_of_mem_replicate zero]
    decide
  · exact mem_hexadecimalAlphabet_of_mem_toDigits digits

end Decimal

namespace Device

section Hashing

variable {hash other : UInt32} {byte : UInt8}

/-- The inverse of the prime, by which the spreading of a hash is undone. -/
def hashInverse : UInt32 := 899433627

private theorem spread_injective {word another : UInt32}
    (same : word * hashPrime = another * hashPrime) : word = another := by
  have undone (spread : UInt32) : spread * hashPrime * hashInverse = spread := by
    rw [UInt32.mul_assoc, show hashPrime * hashInverse = 1 from rfl, UInt32.mul_one]
  have unspread := congrArg (· * hashInverse) same
  simp only [undone] at unspread
  exact unspread

theorem absorb_injective (same : absorb hash byte = absorb other byte) : hash = other :=
  (UInt32.xor_left_inj _).mp (spread_injective same)

theorem absorb_byte_injective {another : UInt8} (same : absorb hash byte = absorb hash another) :
    byte = another :=
  UInt8.toUInt32_inj.mp ((UInt32.xor_right_inj _).mp (spread_injective same))

private theorem foldl_absorb_injective {bytes : Bytes}
    (same : bytes.foldl absorb hash = bytes.foldl absorb other) : hash = other := by
  induction bytes generalizing hash other with
  | nil => exact same
  | cons byte rest ih => exact absorb_injective (ih same)

/-- Whether two texts have equally many bytes, of which exactly one is different. -/
def OneByteApart (first second : String) : Prop :=
  ∃ (front back : Bytes) (byte another : UInt8), byte ≠ another ∧
    Bytes.ofText first = front ++ byte :: back ∧ Bytes.ofText second = front ++ another :: back

private theorem OneByteApart.hashText_ne {first second : String}
    (apart : OneByteApart first second) :
    hashText first ≠ hashText second := by
  obtain ⟨front, back, byte, another, different, firstBytes, secondBytes⟩ := apart
  intro same
  rw [hashText, hashText, firstBytes, secondBytes, hashBytes, hashBytes, List.foldl_append,
    List.foldl_append] at same
  exact different (absorb_byte_injective (foldl_absorb_injective same))

end Hashing

namespace Attachment

variable {first second : Attachment}

def texts (attachment : Attachment) : List String :=
  [attachment.namespacePath, attachment.interfaceName, attachment.containerId]

/-- The hashes of the texts of an attachment, mixed together. -/
def mixture (attachment : Attachment) : UInt32 :=
  hashText attachment.namespacePath ^^^ hashText attachment.interfaceName ^^^
    hashText attachment.containerId

theorem hash_eq (attachment : Attachment) : attachment.hash = hashBasis ^^^ attachment.mixture := by
  rw [hash, mixture, UInt32.xor_assoc, UInt32.xor_assoc, UInt32.xor_assoc]

theorem hash_eq_iff : first.hash = second.hash ↔ first.mixture = second.mixture := by
  rw [hash_eq, hash_eq]
  exact UInt32.xor_right_inj hashBasis

/-- Attachments of which one text differs in one byte. -/
inductive Neighbours : Attachment → Attachment → Prop where
  | namespacePath {path other interface container : String} : OneByteApart path other →
      Neighbours ⟨path, interface, container⟩ ⟨other, interface, container⟩
  | interfaceName {path interface other container : String} : OneByteApart interface other →
      Neighbours ⟨path, interface, container⟩ ⟨path, other, container⟩
  | containerId {path interface container other : String} : OneByteApart container other →
      Neighbours ⟨path, interface, container⟩ ⟨path, interface, other⟩

private theorem Neighbours.mixture_ne (neighbours : Neighbours first second) :
    first.mixture ≠ second.mixture := by
  intro same
  cases neighbours with
  | namespacePath apart =>
      exact apart.hashText_ne ((UInt32.xor_left_inj _).mp ((UInt32.xor_left_inj _).mp same))
  | interfaceName apart =>
      exact apart.hashText_ne ((UInt32.xor_right_inj _).mp ((UInt32.xor_left_inj _).mp same))
  | containerId apart => exact apart.hashText_ne ((UInt32.xor_right_inj _).mp same)

private theorem mixture_of_perm (rearranged : first.texts.Perm second.texts) :
    first.mixture = second.mixture := by
  have folded (attachment : Attachment) :
      attachment.texts.foldl (fun mixed text => mixed ^^^ hashText text) 0 =
        attachment.mixture := by
    simp [texts, mixture]
  rw [← folded, ← folded]
  apply rearranged.foldl_eq'
  intro text _ other _ mixed
  rw [UInt32.xor_assoc, UInt32.xor_comm (hashText text), UInt32.xor_assoc]

end Attachment

section Names

theorem hostName_eq (hash : UInt32) :
    hostName hash = "sknf" ++ String.ofList (Decimal.hexadecimal8 hash) :=
  String.ofList_append.trans (congrArg (· ++ _) String.ofList_toList)

theorem transientName_eq (hash : UInt32) :
    transientName hash = "tmp" ++ String.ofList (Decimal.hexadecimal8 hash) :=
  String.ofList_append.trans (congrArg (· ++ _) String.ofList_toList)

theorem hostName_inj {hash other : UInt32} : hostName hash = hostName other ↔ hash = other := by
  refine ⟨fun same => ?_, congrArg hostName⟩
  exact Decimal.hexadecimal8_injective (List.append_cancel_left (String.ofList_inj.mp same))

theorem transientName_inj {hash other : UInt32} :
    transientName hash = transientName other ↔ hash = other := by
  refine ⟨fun same => ?_, congrArg transientName⟩
  exact Decimal.hexadecimal8_injective (List.append_cancel_left (String.ofList_inj.mp same))

private theorem head?_hostName (hash : UInt32) : (hostName hash).toList.head? = some 's' :=
  congrArg List.head? String.toList_ofList

private theorem head?_transientName (hash : UInt32) :
    (transientName hash).toList.head? = some 't' :=
  congrArg List.head? String.toList_ofList

theorem host_ne_transient (first second : Attachment) :
    first.names.host ≠ second.names.transient := by
  intro same
  have heads : (hostName first.hash).toList.head? = (transientName second.hash).toList.head? :=
    congrArg (fun name => name.toList.head?) same
  rw [head?_hostName, head?_transientName] at heads
  cases heads

/-- A short text in front of the digits of a hash. -/
theorem lengthOfText_named (opening : String) (hash : UInt32) :
    Bytes.lengthOfText (opening ++ String.ofList (Decimal.hexadecimal8 hash)) =
      Bytes.lengthOfText opening + 8 := by
  have ascii : ∀ digit ∈ Decimal.hexadecimal8 hash, digit.toNat < 0x80 := by
    intro digit member
    have alphabet : ∀ digit ∈ Decimal.hexadecimalAlphabet, digit.toNat < 0x80 := by
      simp [Decimal.hexadecimalAlphabet]
    exact alphabet digit (Decimal.mem_hexadecimalAlphabet_of_mem_hexadecimal8 member)
  have digits : Bytes.lengthOfText (String.ofList (Decimal.hexadecimal8 hash)) = 8 := by
    rw [Bytes.lengthOfText, Bytes.ofText_ofList, Bytes.length_encoded_of_ascii ascii,
      Decimal.length_hexadecimal8]
  rw [← digits]
  simp [Bytes.lengthOfText, Bytes.ofText]

end Names

namespace Attachment

/-- Two attachments share the name on the host exactly if they share the transient one, and exactly
if the hashes of their texts mix to the same word. So attachments of which one text differs in one
byte have different names, and attachments whose texts have changed places the same ones. The names
end in the same eight hexadecimal digits, fit a device, and are never mistaken for each other. -/
theorem names_collide_exactly (first second : Attachment) :
    (first.names.host = second.names.host ↔ first.names.transient = second.names.transient) ∧
    (first.names.transient = second.names.transient ↔ first.mixture = second.mixture) ∧
    (Neighbours first second →
      first.names.host ≠ second.names.host ∧ first.names.transient ≠ second.names.transient) ∧
    (first.texts.Perm second.texts → first.names = second.names) ∧
    (∃ digits : List Char, digits.length = 8 ∧
      (∀ digit ∈ digits, digit ∈ Decimal.hexadecimalAlphabet) ∧
      first.names.host = "sknf" ++ String.ofList digits ∧
      first.names.transient = "tmp" ++ String.ofList digits) ∧
    Bytes.lengthOfText first.names.host ≤ longestName ∧
    Bytes.lengthOfText first.names.transient ≤ longestName ∧
    first.names.host ≠ second.names.transient := by
  have host : first.names.host = second.names.host ↔ first.mixture = second.mixture :=
    hostName_inj.trans hash_eq_iff
  have transient : first.names.transient = second.names.transient ↔
      first.mixture = second.mixture :=
    transientName_inj.trans hash_eq_iff
  refine ⟨host.trans transient.symm, transient, ?neighbours, ?rearranged, ?digits, ?hostFits,
    ?transientFits, host_ne_transient first second⟩
  case neighbours =>
    intro neighbours
    exact ⟨fun same => neighbours.mixture_ne (host.mp same),
      fun same => neighbours.mixture_ne (transient.mp same)⟩
  case rearranged =>
    intro rearranged
    have mixed := mixture_of_perm rearranged
    exact Names.mk.injEq .. ▸ ⟨host.mpr mixed, transient.mpr mixed⟩
  case digits =>
    exact ⟨Decimal.hexadecimal8 first.hash, Decimal.length_hexadecimal8 first.hash,
      fun _ => Decimal.mem_hexadecimalAlphabet_of_mem_hexadecimal8, hostName_eq first.hash,
      transientName_eq first.hash⟩
  case hostFits =>
    exact (congrArg Bytes.lengthOfText (hostName_eq first.hash)).trans_le
      (lengthOfText_named "sknf" first.hash ▸ by decide)
  case transientFits =>
    exact (congrArg Bytes.lengthOfText (transientName_eq first.hash)).trans_le
      (lengthOfText_named "tmp" first.hash ▸ by decide)

/-- Namespaces whose last digits differ, and texts that have changed places. -/
theorem names_collide_exactly_nearby :
    Neighbours ⟨"/var/run/netns/ctn1", "eth0", "é"⟩ ⟨"/var/run/netns/ctn2", "eth0", "é"⟩ ∧
    names ⟨"/var/run/netns/ctn1", "eth0", "é"⟩ ≠ names ⟨"/var/run/netns/ctn2", "eth0", "é"⟩ ∧
    (texts ⟨"eth0", "", "é"⟩).Perm (texts ⟨"é", "eth0", ""⟩) ∧
    names ⟨"eth0", "", "é"⟩ = names ⟨"é", "eth0", ""⟩ := by
  have neighbours :
      Neighbours ⟨"/var/run/netns/ctn1", "eth0", "é"⟩ ⟨"/var/run/netns/ctn2", "eth0", "é"⟩ :=
    .namespacePath ⟨Bytes.ofText "/var/run/netns/ctn", [], 0x31, 0x32, by decide, rfl, rfl⟩
  have rearranged : (texts ⟨"eth0", "", "é"⟩).Perm (texts ⟨"é", "eth0", ""⟩) := by decide
  have apart := (names_collide_exactly _ _).2.2.1 neighbours
  have shared := (names_collide_exactly _ _).2.2.2.1 rearranged
  exact ⟨neighbours, fun same => apart.1 (congrArg Names.host same), rearranged, shared⟩

end Attachment

end Device

end OverlayNet
