import OverlayNet.Masquerade.Transport

set_option autoImplicit false

/-! # A socket to the packet filter

An exchange over a socket sends the batch and then receives buffer after buffer, until every answer
that the batch expects has come or the kernel refuses. -/

namespace OverlayNet.Masquerade

namespace Tally

/-- The buffers that are not received any more, since the tally is finished before them. -/
def unread (port : UInt32) (tally : Tally) : List Bytes → List Bytes
  | [] => []
  | buffer :: rest =>
      match tally.receive port buffer with
      | .ok (false, next) => next.unread port rest
      | .ok (true, _) => rest
      | .error _ => rest

end Tally

/-- A socket, together with what the kernel will do on it. -/
structure Socket where
  /-- The port to which the kernel answers. -/
  port : UInt32
  /-- The error with which sending fails, if it does. -/
  sendError : Option Os.Errno
  /-- The buffers that can be received, in the order in which they come. -/
  arriving : List Bytes
  /-- The error with which receiving fails behind them. -/
  receiveError : Os.Errno
  /-- The batches that were sent, the oldest first. -/
  sent : List Bytes
deriving DecidableEq, Repr

namespace Socket

def socketRefused (context : String) (errno : Os.Errno) : Fault :=
  .system context "NETLINK_NETFILTER" (.refused errno)

def transport : Transport Socket := fun batch socket =>
  match socket.sendError with
  | some errno =>
      (.error (socketRefused "Failure sending batch to configure nftables" errno), socket)
  | none =>
      let tally : Tally := ⟨batch.acknowledged, []⟩
      let later :=
        { socket with
          sent := socket.sent ++ [batch.bytes]
          arriving := tally.unread socket.port socket.arriving }
      match tally.receiveAll socket.port socket.arriving with
      | .error fault => (.error fault, later)
      | .ok none =>
          (.error (socketRefused "Received error when consuming nft acks" socket.receiveError),
            later)
      | .ok (some answers) => (.ok answers, later)

end Socket

end OverlayNet.Masquerade
