import OverlayNet.Address.Ipv4
import OverlayNet.Text.Cut

set_option autoImplicit false

/-! # Addresses with a prefix length

The text `a.b.c.d/len` names an address and the network around it. A bare address never stands for
a network of one host: the prefix length is always read and always written. -/

namespace OverlayNet

/-- An IPv4 address with the length of its network prefix. -/
structure Cidr where
  address : Ipv4
  prefixLength : Nat
  prefixLength_le : prefixLength ≤ 32
deriving DecidableEq, Repr

namespace Cidr

inductive Defect where
  | prefixTooLong
  | slashMissing
  | addressInvalid (address : String)
  /-- What follows the last slash is not a number up to 32. -/
  | prefixInvalid (length : String)
deriving DecidableEq, Repr

def Defect.reason : Defect → String
  | .prefixTooLong => "prefix length must be between 0 and 32"
  | .slashMissing => "missing '/'"
  | .addressInvalid address => "invalid IPv4 address '" ++ address ++ "'"
  | .prefixInvalid length => "invalid prefix length '" ++ length ++ "'"

/-- The text of an address and a prefix length, whether or not that length is possible. -/
def textOf (address : Ipv4) (prefixLength : Nat) : String :=
  address.text ++ "/" ++ Decimal.text prefixLength

def text (cidr : Cidr) : String :=
  textOf cidr.address cidr.prefixLength

def new? (address : Ipv4) (prefixLength : Nat) : Except Defect Cidr :=
  if possible : prefixLength ≤ 32 then .ok ⟨address, prefixLength, possible⟩
  else .error .prefixTooLong

/-- A prefix length from its text: digits after at most one plus sign, at most 32. -/
def prefixLength? (characters : List Char) : Option { length : Nat // length ≤ 32 } :=
  match Decimal.unsigned? 256 characters with
  | some length => if possible : length ≤ 32 then some ⟨length, possible⟩ else none
  | none => none

/-- The address and prefix length that a text spells. The text is cut at its last slash, and the
address is judged before the prefix length. -/
def parse (text : String) : Except Defect Cidr :=
  match Text.cutLast? '/' text.toList with
  | none => .error .slashMissing
  | some (before, after) =>
      match Ipv4.ofCharacters? before with
      | none => .error (.addressInvalid (String.ofList before))
      | some address =>
          match prefixLength? after with
          | none => .error (.prefixInvalid (String.ofList after))
          | some length => .ok ⟨address, length.val, length.property⟩

def withPrefix (cidr : Cidr) (prefixLength : Nat) : Except Defect Cidr :=
  new? cidr.address prefixLength

def withPrefixOf (cidr network : Cidr) : Cidr :=
  ⟨cidr.address, network.prefixLength, network.prefixLength_le⟩

/-- The address a number of hosts further on, with the same prefix length. -/
def offset (cidr : Cidr) (hosts : UInt32) : Cidr :=
  { cidr with address := cidr.address.advance hosts }

/-- The mask whose leading bits, as many as the prefix is long, are ones. -/
def mask (cidr : Cidr) : Ipv4 :=
  ⟨UInt32.ofNat (UInt32.size - Nat.pow 2 (32 - cidr.prefixLength))⟩

def network (cidr : Cidr) : Ipv4 :=
  ⟨cidr.address.bits &&& cidr.mask.bits⟩

/-- Whether an address lies in the network: masked, it is the network's address. -/
def contains (cidr : Cidr) (address : Ipv4) : Bool :=
  address.bits &&& cidr.mask.bits == cidr.network.bits

theorem withPrefix_eq_new? (cidr : Cidr) (prefixLength : Nat) :
    cidr.withPrefix prefixLength = new? cidr.address prefixLength :=
  rfl

end Cidr

end OverlayNet
