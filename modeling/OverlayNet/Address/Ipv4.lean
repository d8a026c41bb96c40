import OverlayNet.Decimal.Natural

set_option autoImplicit false

/-! # IPv4 addresses

An address is a word of 32 bits. Its text is the dotted quad: the four octets in decimal without
leading zeros, most significant first. No other text is read as an address. -/

namespace OverlayNet

structure Ipv4 where
  /-- The address as a word, the first octet the most significant. -/
  bits : UInt32
deriving DecidableEq, Repr, Inhabited

namespace Ipv4

def ofOctets (first second third fourth : UInt8) : Ipv4 :=
  ⟨first.toUInt32 <<< 24 ||| second.toUInt32 <<< 16 ||| third.toUInt32 <<< 8 ||| fourth.toUInt32⟩

/-- The four octets of an address, in the order in which they are written. -/
def octets (address : Ipv4) : List UInt8 :=
  [(address.bits >>> 24).toUInt8, (address.bits >>> 16).toUInt8, (address.bits >>> 8).toUInt8,
    address.bits.toUInt8]

def characters (address : Ipv4) : List Char :=
  ['.'].intercalate (address.octets.map fun octet => Decimal.digits octet.toNat)

def text (address : Ipv4) : String :=
  String.ofList address.characters

/-- An octet from its decimal text: one to three digits, no leading zero, at most 255. -/
def octet? (characters : List Char) : Option UInt8 :=
  if characters.length ≤ 3 ∧ (characters.head? = some '0' → characters = ['0']) then
    ((Decimal.digits? characters).filter (· < 256)).map UInt8.ofNat
  else none

def ofCharacters? (characters : List Char) : Option Ipv4 :=
  match (characters.splitOn '.').mapM octet? with
  | some [first, second, third, fourth] => some (ofOctets first second third fourth)
  | _ => none

def ofText? (text : String) : Option Ipv4 :=
  ofCharacters? text.toList

/-- The address with the given number added. At the top of the address space it wraps. -/
def advance (address : Ipv4) (hosts : UInt32) : Ipv4 :=
  ⟨address.bits + hosts⟩

end Ipv4

end OverlayNet
