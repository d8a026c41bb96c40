import OverlayNet.Netlink.Reader

set_option autoImplicit false

/-! # Acknowledgements

The kernel acknowledges the messages of a batch one by one, in one buffer or in several. They are
tallied until every expected one has come, or until one refuses. A refusal counts whatever its
number, since the kernel refuses a whole batch on its first message, which expects no answer. -/

namespace OverlayNet.Masquerade

open Netlink (Message)

/-- The answer to one message of a batch: zero, or a negative error number. -/
structure Acknowledgement where
  sequence : UInt32
  error : Int
deriving DecidableEq, Repr

/-- The sequence numbers whose answer is still expected, and the answers that count, the oldest
first. -/
structure Tally where
  pending : List UInt32
  answers : List Acknowledgement
deriving DecidableEq, Repr

namespace Tally

def settle (tally : Tally) (sequence : UInt32) : Tally :=
  { tally with pending := tally.pending.filter (· ≠ sequence) }

def count (tally : Tally) (answer : Acknowledgement) : Tally :=
  { tally with answers := tally.answers ++ [answer] }

/-- Tallies messages in order. The first part of the result tells whether nothing more is expected.
Messages for other ports and messages that answer nothing are passed over. -/
def collect (port : UInt32) (tally : Tally) : List Message → Bool × Tally
  | [] => (tally.pending.isEmpty, tally)
  | message :: rest =>
      if message.port ≠ 0 ∧ message.port ≠ port then tally.collect port rest
      else if message.type = Message.doneType then
        { tally with pending := [] : Tally }.collect port rest
      else
        match message.errorCode? with
        | none => tally.collect port rest
        | some error =>
            let settled := tally.settle message.sequence
            let counted := settled.count ⟨message.sequence, error⟩
            if error ≠ 0 then (true, counted)
            else if message.sequence ∈ tally.pending then counted.collect port rest
            else settled.collect port rest

def receive (port : UInt32) (tally : Tally) (buffer : Bytes) : Except Fault (Bool × Tally) :=
  (Netlink.messages buffer).map (tally.collect port)

/-- Tallies buffers in order until nothing more is expected, and yields the answers that count;
nothing if the buffers end before. -/
def receiveAll (port : UInt32) (tally : Tally) :
    List Bytes → Except Fault (Option (List Acknowledgement))
  | [] => .ok none
  | buffer :: rest => do
      let (finished, next) ← tally.receive port buffer
      if finished then .ok (some next.answers) else next.receiveAll port rest

end Tally

end OverlayNet.Masquerade
