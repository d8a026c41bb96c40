import OverlayNet.Address.Cidr
import OverlayNet.Netlink.Writer

set_option autoImplicit false

/-! # The masquerade batch

Masquerading is set up by one batch of messages: a begin mark, a table, a chain at the point behind
routing, a rule, and an end mark. The rule matches packets that leave through the uplink with a
source address in the network of the cluster. -/

namespace OverlayNet.Masquerade

open Netlink (Attribute Heading Writer)

/-- The messages of a batch in bytes, and the sequence numbers that are to be acknowledged. -/
structure Batch where
  bytes : Bytes
  acknowledged : List UInt32
deriving DecidableEq, Repr

structure Request where
  table : String
  chain : String
  uplink : String
  cluster : Cidr
deriving DecidableEq, Repr

def expression (name : String) (parameters : List Attribute) : Attribute :=
  .nest 1 [.text 1 name, .nest 2 parameters]

/-- Data as an expression takes them. -/
def value (type : UInt16) (data : Bytes) : Attribute :=
  .nest type [.leaf 1 data]

def tableAttributes (request : Request) : List Attribute :=
  [.text 1 request.table]

/-- The chain: its table and name, its hook behind routing at the priority at which source addresses
are changed, and its type. -/
def chainAttributes (request : Request) : List Attribute :=
  [.text 1 request.table, .text 3 request.chain, .nest 4 [.word 1 4, .word 2 100], .text 7 "nat"]

/-- The expressions of the rule: the name of the outgoing device is the uplink's, the source address
under the cluster's mask is the cluster's network, and the packet is masqueraded. The zero byte
behind the uplink keeps longer names from matching. -/
def expressions (request : Request) : List Attribute :=
  [expression "meta" [.word 2 7, .word 1 1],
    expression "cmp" [.word 1 1, .word 2 0, value 3 (Bytes.ofText request.uplink ++ [0])],
    expression "payload" [.word 1 1, .word 2 1, .word 3 12, .word 4 4],
    expression "bitwise"
      [.word 1 1, .word 2 1, .word 3 4, value 4 (Bytes.bigEndian32 request.cluster.mask.bits),
        value 5 [0, 0, 0, 0]],
    expression "cmp"
      [.word 1 1, .word 2 0, value 3 (Bytes.bigEndian32 request.cluster.network.bits)],
    expression "masq" []]

def ruleAttributes (request : Request) : List Attribute :=
  [.text 1 request.table, .text 2 request.chain, .nest 4 (expressions request)]

/-- The heading of a message that begins or ends a batch. -/
def markHeading (type : UInt16) (sequence : UInt32) : Heading :=
  ⟨type, 0x1, sequence, 0, 10⟩

/-- The heading of a message that creates something and is to be acknowledged. -/
def createHeading (type flags : UInt16) (sequence : UInt32) : Heading :=
  ⟨type, flags, sequence, 2, 0⟩

/-- The batch whose messages are numbered from the given number on. -/
def batch (request : Request) (first : UInt32) : Batch where
  bytes :=
    (((((Writer.empty.message (markHeading 0x10 first) []).message
      (createHeading 0x0a00 0x405 (first + 1)) (tableAttributes request)).message
      (createHeading 0x0a03 0x405 (first + 2)) (chainAttributes request)).message
      (createHeading 0x0a06 0xc05 (first + 3)) (ruleAttributes request)).message
      (markHeading 0x11 (first + 4)) []).buffer
  acknowledged := [first + 1, first + 2, first + 3]

end OverlayNet.Masquerade
