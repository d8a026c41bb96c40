import Mathlib
import OverlayNet.Proofs.Netlink.Framing

set_option autoImplicit false

/-! # Message streams, written and read

Messages that are written one behind the other are read back one by one, with nothing left over,
however long the texts in them are, as long as their lengths fit a field of thirty-two bits. -/

namespace OverlayNet.Netlink

structure Outgoing where
  heading : Heading
  attributes : List Attribute

namespace Outgoing

/-- What the packet filter expects between the header and the attributes. -/
def family (outgoing : Outgoing) : Bytes :=
  [outgoing.heading.family, 0] ++ Bytes.bigEndian16 outgoing.heading.resource

def length (outgoing : Outgoing) : Nat :=
  20 + Attribute.forestLength outgoing.attributes

def bytes (outgoing : Outgoing) : Bytes :=
  Bytes.littleEndian32 (UInt32.ofNat outgoing.length) ++
    (Bytes.littleEndian16 outgoing.heading.type ++ Bytes.littleEndian16 outgoing.heading.flags ++
      Bytes.littleEndian32 outgoing.heading.sequence ++ Bytes.littleEndian32 0 ++
      outgoing.family ++ Attribute.forestBytes outgoing.attributes)

/-- What is received for a message. -/
def message (outgoing : Outgoing) : Message where
  type := outgoing.heading.type
  flags := outgoing.heading.flags
  sequence := outgoing.heading.sequence
  port := 0
  payload := outgoing.family ++ Attribute.forestBytes outgoing.attributes

private theorem length_mod_four (outgoing : Outgoing) : outgoing.length % 4 = 0 := by
  have aligned := Attribute.forestLength_mod_four outgoing.attributes
  simp only [length]
  omega

theorem length_bytes (outgoing : Outgoing) : outgoing.bytes.length = outgoing.length := by
  simp only [bytes, length, family, Bytes.littleEndian32, Bytes.littleEndian16,
    Bytes.bigEndian16, List.length_append, List.length_cons, List.length_nil,
    Attribute.length_forestBytes]
  omega

theorem length_payload (outgoing : Outgoing) :
    16 + outgoing.message.payload.length = outgoing.length := by
  simp only [message, length, family, Bytes.bigEndian16, List.length_append, List.length_cons,
    List.length_nil, Attribute.length_forestBytes]
  omega

theorem take_four_payload (outgoing : Outgoing) :
    outgoing.message.payload.take 4 = outgoing.family := by
  have four : outgoing.family.length = 4 := rfl
  rw [message, ← four, List.take_left]

theorem filterAttributes_message (outgoing : Outgoing) :
    outgoing.message.filterAttributes =
      Netlink.attributes (Attribute.forestBytes outgoing.attributes) := by
  have enough : ¬ outgoing.message.payload.length < 4 := by
    have total := outgoing.length_payload
    simp only [length] at total
    omega
  simp only [Message.filterAttributes, if_neg enough]
  rfl

end Outgoing

private theorem Writer.message_eq (writer : Writer) (aligned : writer.buffer.length % 4 = 0)
    (outgoing : Outgoing) :
    writer.message outgoing.heading outgoing.attributes = writer.append outgoing.bytes := by
  have opened : (writer.openMessage outgoing.heading).buffer.length % 4 = 0 := by
    simp only [openMessage, append, Bytes.littleEndian32, Bytes.littleEndian16, Bytes.bigEndian16,
      List.length_append, List.length_cons, List.length_nil]
    omega
  have measured : ((writer.openMessage outgoing.heading).append
      (Attribute.forestBytes outgoing.attributes)).buffer.length - writer.buffer.length =
        outgoing.length := by
    simp only [openMessage, append, Outgoing.length, Bytes.littleEndian32, Bytes.littleEndian16,
      Bytes.bigEndian16, List.length_append, List.length_cons, List.length_nil,
      Attribute.length_forestBytes]
    omega
  rw [message, forest_eq _ opened, closeMessage, measured]
  simp only [openMessage, append, Outgoing.bytes, Outgoing.family, List.append_assoc]
  rw [patch_append _ (Bytes.littleEndian32 0)]
  rfl

theorem Writer.foldl_message (writer : Writer) (aligned : writer.buffer.length % 4 = 0)
    (stream : List Outgoing) :
    stream.foldl (fun writer outgoing => writer.message outgoing.heading outgoing.attributes)
        writer =
      writer.append (stream.flatMap Outgoing.bytes) := by
  induction stream generalizing writer with
  | nil => simp [append]
  | cons first rest ih =>
      have next : (writer.append first.bytes).buffer.length % 4 = 0 := by
        have firstAligned := first.length_mod_four
        simp only [append, List.length_append, first.length_bytes]
        omega
      rw [List.foldl_cons, message_eq writer aligned first, ih _ next]
      simp [append]

/-- A message whose length fits its field is read as it was written, and what follows it is read
behind it. -/
theorem messagesFrom_append (offset : Nat) (outgoing : Outgoing) (rest : Bytes)
    (short : outgoing.length < 2 ^ 32) :
    messagesFrom offset (outgoing.bytes ++ rest) =
      (messagesFrom (offset + outgoing.length) rest).map (outgoing.message :: ·) := by
  have measured : outgoing.message.length = outgoing.length := outgoing.length_payload
  have bytes : outgoing.bytes = outgoing.message.header ++ outgoing.message.payload := by
    rw [Message.header, measured]
    simp only [Outgoing.bytes, Outgoing.message, List.append_assoc]
  have read := messagesFrom_message (measured.trans_lt short) rest offset
  rw [measured, align_eq_self outgoing.length_mod_four, Nat.sub_self, List.drop_zero] at read
  rw [bytes, read]

/-- Messages that are written one behind the other are the ones that are read. -/
theorem messagesFrom_flatMap (offset : Nat) (stream : List Outgoing)
    (short : ∀ outgoing ∈ stream, outgoing.length < 2 ^ 32) :
    messagesFrom offset (stream.flatMap Outgoing.bytes) = .ok (stream.map Outgoing.message) := by
  induction stream generalizing offset with
  | nil => simp [messagesFrom]
  | cons first rest ih =>
      have firstShort := short first List.mem_cons_self
      have restShort : ∀ outgoing ∈ rest, outgoing.length < 2 ^ 32 :=
        fun outgoing member => short outgoing (List.mem_cons_of_mem _ member)
      rw [List.flatMap_cons, messagesFrom_append offset first _ firstShort, ih _ restShort]
      rfl

private theorem length_le_length_flatMap {stream : List Outgoing} {outgoing : Outgoing}
    (member : outgoing ∈ stream) : outgoing.length ≤ (stream.flatMap Outgoing.bytes).length := by
  rw [← outgoing.length_bytes]
  exact (List.sublist_flatten_of_mem (List.mem_map_of_mem member)).length_le

/-- Messages whose bytes are fewer than two to the thirty-second together are read back. -/
theorem messages_flatMap (stream : List Outgoing)
    (short : (stream.flatMap Outgoing.bytes).length < 2 ^ 32) :
    messages (stream.flatMap Outgoing.bytes) = .ok (stream.map Outgoing.message) := by
  apply messagesFrom_flatMap
  intro outgoing member
  exact Nat.lt_of_le_of_lt (length_le_length_flatMap member) short

end OverlayNet.Netlink
