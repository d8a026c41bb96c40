import OverlayNet.Fault
import OverlayNet.Netlink.Writer

set_option autoImplicit false

/-! # Reading messages from the kernel

A buffer is split into messages along the lengths in their headers, and the data of a message into
attributes. A message whose length is impossible makes the whole buffer malformed; attributes are
read up to the first one that is cut short. -/

namespace OverlayNet.Netlink

structure Message where
  type : UInt16
  flags : UInt16
  sequence : UInt32
  port : UInt32
  /-- Everything behind the header. -/
  payload : Bytes
deriving DecidableEq, Repr

structure Received where
  /-- The type without the flags that share its field. -/
  type : UInt16
  nested : Bool
  data : Bytes
deriving DecidableEq, Repr

/-- The bits of the type of an attribute that are not flags. -/
def typeMask : UInt16 := 0x3fff

def malformed (length offset : Nat) : Fault :=
  .rejected "Malformed netlink message"
    ("length " ++ Decimal.text length ++ " at offset " ++ Decimal.text offset)

/-- The messages in the bytes behind an offset. Fewer bytes than a header takes are no message. -/
def messagesFrom (offset : Nat) (bytes : Bytes) : Except Fault (List Message) :=
  match bytes with
  | l0 :: l1 :: l2 :: l3 :: t0 :: t1 :: f0 :: f1 :: s0 :: s1 :: s2 :: s3 :: p0 :: p1 :: p2 :: p3 ::
      rest =>
      let length := (Bytes.word32 l0 l1 l2 l3).toNat
      if length < 16 ∨ rest.length + 16 < length then .error (malformed length offset)
      else do
        let message : Message :=
          { type := Bytes.word16 t0 t1
            flags := Bytes.word16 f0 f1
            sequence := Bytes.word32 s0 s1 s2 s3
            port := Bytes.word32 p0 p1 p2 p3
            payload := rest.take (length - 16) }
        let others ← messagesFrom (offset + align length) (rest.drop (align length - 16))
        pure (message :: others)
  | _ => .ok []
termination_by bytes.length
decreasing_by
  simp only [List.length_drop, List.length_cons]
  omega

def messages (bytes : Bytes) : Except Fault (List Message) :=
  messagesFrom 0 bytes

/-- The attributes in a buffer, up to the first one that is cut short. -/
def attributes (bytes : Bytes) : List Received :=
  match bytes with
  | l0 :: l1 :: t0 :: t1 :: rest =>
      let length := (Bytes.word16 l0 l1).toNat
      let type := Bytes.word16 t0 t1
      if length < 4 ∨ rest.length + 4 < length then []
      else
        { type := type &&& typeMask
          nested := type &&& nestedBit != 0
          data := rest.take (length - 4) } :: attributes (rest.drop (align length - 4))
  | _ => []
termination_by bytes.length
decreasing_by
  simp only [List.length_drop, List.length_cons]
  omega

namespace Received

def children (received : Received) : List Received :=
  attributes received.data

/-- The text of an attribute, without the zero byte that may close it, if it is UTF-8. -/
def text? (received : Received) : Option String :=
  Bytes.text?
    (if received.data.getLast? = some 0 then received.data.dropLast else received.data)

/-- The word at the start of an attribute, if it is long enough. -/
def word? (received : Received) : Option UInt32 :=
  match received.data with
  | first :: second :: third :: fourth :: _ => some (Bytes.word32 fourth third second first)
  | _ => none

end Received

namespace Message

/-- The attributes of a message of the packet filter, which stand behind four other bytes. -/
def filterAttributes (message : Message) : List Received :=
  if message.payload.length < 4 then [] else attributes (message.payload.drop 4)

def errorType : UInt16 := 2

def doneType : UInt16 := 3

/-- The number that answers a request, zero if it was carried out and negative if it was refused. -/
def errorCode? (message : Message) : Option Int :=
  if message.type = errorType then
    match message.payload with
    | first :: second :: third :: fourth :: _ =>
        some (Bytes.word32 first second third fourth).toInt32.toInt
    | _ => none
  else none

end Message

/-- An attribute with the attributes inside it, down to those that are not nested. -/
inductive Expanded where
  | node (received : Received) (children : List Expanded)

/-- The data of a nested attribute, and nothing for another one. -/
def Received.inner (received : Received) : Bytes :=
  if received.nested then received.data else []

private theorem length_data_lt {bytes : Bytes} {received : Received}
    (member : received ∈ attributes bytes) : received.data.length < bytes.length := by
  fun_induction attributes bytes with
  | case1 => simp at member
  | case2 l0 l1 t0 t1 rest length type possible ih =>
      rcases List.mem_cons.mp member with rfl | later
      · simp only [List.length_take, List.length_cons]
        omega
      · have shorter := ih later
        simp only [List.length_drop, List.length_cons] at shorter ⊢
        omega
  | case3 => simp at member

/-- The attributes in a buffer with all that is inside them. -/
def expand (bytes : Bytes) : List Expanded :=
  (attributes bytes).attach.map fun ⟨received, _⟩ => .node received (expand received.inner)
termination_by bytes.length
decreasing_by
  have shorter := length_data_lt ‹received ∈ attributes bytes›
  simp only [Received.inner]
  split
  · exact shorter
  · exact Nat.lt_of_le_of_lt (Nat.zero_le _) shorter

end OverlayNet.Netlink
