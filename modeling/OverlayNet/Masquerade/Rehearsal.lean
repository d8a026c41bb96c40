import OverlayNet.Masquerade.Transport

set_option autoImplicit false

/-! # A transport that follows a script

A scripted transport stands in for the packet filter: it records the batches that reach it and
answers them as its script says. -/

namespace OverlayNet.Masquerade

/-- What a scripted transport does. Without any entry every expected answer comes. -/
structure Script where
  /-- The error with which opening fails. -/
  openError : Option Os.Errno
  /-- The error with which an exchange fails, behind the recording of the batch. -/
  exchangeError : Option Os.Errno
  /-- The answers, as they are. -/
  answers : Option (List Acknowledgement)
  /-- The answers of the kernel, of which those that count are returned. -/
  replies : Option (List Acknowledgement)
deriving DecidableEq, Repr

def Script.plain : Script := ⟨none, none, none, none⟩

/-- Whoever opens scripted transports, and how many have been opened. -/
structure ScriptedOpener where
  script : Script
  opened : Nat
deriving DecidableEq, Repr

/-- An open scripted transport. -/
structure Rehearsal where
  script : Script
  /-- The batches that were sent, the oldest first. -/
  sent : List Bytes
deriving DecidableEq, Repr

/-- The message with which the kernel answers. -/
def Acknowledgement.message (answer : Acknowledgement) : Netlink.Message where
  type := Netlink.Message.errorType
  flags := 0
  sequence := answer.sequence
  port := 0
  payload := Bytes.littleEndian32 (Int32.ofInt answer.error).toUInt32

namespace Rehearsal

def opening : Opener ScriptedOpener Rehearsal := fun opener =>
  match opener.script.openError with
  | some errno => (.error (openingRefused errno), opener)
  | none => (.ok ⟨opener.script, []⟩, { opener with opened := opener.opened + 1 })

def answer (script : Script) (batch : Batch) : Except Fault (List Acknowledgement) :=
  match script.exchangeError, script.answers, script.replies with
  | some errno, _, _ =>
      .error (.system "Failure sending batch to configure nftables" "NETLINK_NETFILTER"
        (.refused errno))
  | none, some answers, _ => .ok answers
  | none, none, some replies =>
      .ok (Tally.collect 0 ⟨batch.acknowledged, []⟩ (replies.map Acknowledgement.message)).2.answers
  | none, none, none => .ok (batch.acknowledged.map fun sequence => ⟨sequence, 0⟩)

def transport : Transport Rehearsal := fun batch rehearsal =>
  (answer rehearsal.script batch, { rehearsal with sent := rehearsal.sent ++ [batch.bytes] })

/-- The scripted transport that is opened on its first use. -/
def lazyTransport : Transport (Lazy ScriptedOpener Rehearsal) :=
  Lazy.transport opening transport

end Rehearsal

end OverlayNet.Masquerade
