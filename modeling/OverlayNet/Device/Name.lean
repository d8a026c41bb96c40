import OverlayNet.Decimal.Natural
import OverlayNet.Text.Bytes

set_option autoImplicit false

/-! # Names of attachment devices

The two ends of the device pair of an attachment get names that depend on nothing but the namespace
path, the interface name inside the container and the container's identifier. Whoever detaches the
container finds its devices again without any stored mapping. -/

namespace OverlayNet.Device

def hashBasis : UInt32 := 2166136261

def hashPrime : UInt32 := 16777619

/-- One step of the hash: the byte is mixed in and the result spread over the word. -/
def absorb (hash : UInt32) (byte : UInt8) : UInt32 :=
  (hash ^^^ byte.toUInt32) * hashPrime

/-- The 32-bit FNV-1a hash of a byte string. -/
def hashBytes (bytes : Bytes) : UInt32 :=
  bytes.foldl absorb hashBasis

def hashText (text : String) : UInt32 :=
  hashBytes (Bytes.ofText text)

/-- What identifies an attachment: which container is connected, and by which interface. -/
structure Attachment where
  namespacePath : String
  interfaceName : String
  containerId : String
deriving DecidableEq, Repr

def Attachment.hash (attachment : Attachment) : UInt32 :=
  hashBasis ^^^ hashText attachment.namespacePath ^^^ hashText attachment.interfaceName ^^^
    hashText attachment.containerId

/-- The longest name, in bytes, that a network device can have. -/
def longestName : Nat := 15

/-- The host-side names of an attachment's devices. -/
structure Names where
  /-- The end that stays on the host and joins the bridge. -/
  host : String
  /-- The other end, until it is moved into the container. -/
  transient : String
deriving DecidableEq, Repr

def hostName (hash : UInt32) : String :=
  String.ofList ("sknf".toList ++ Decimal.hexadecimal8 hash)

def transientName (hash : UInt32) : String :=
  String.ofList ("tmp".toList ++ Decimal.hexadecimal8 hash)

def Attachment.names (attachment : Attachment) : Names :=
  ⟨hostName attachment.hash, transientName attachment.hash⟩

end OverlayNet.Device
