import OverlayNet.Host
import OverlayNet.Masquerade.Acknowledgement
import OverlayNet.Masquerade.Batch

set_option autoImplicit false

/-! # The way to the packet filter

A transport sends a batch to the packet filter and returns the answers. A transport can be opened
as late as on its first use, so that nothing touches the packet filter before a batch is ready. -/

namespace OverlayNet.Masquerade

/-- How a batch is exchanged for answers, in a state of the packet filter. -/
abbrev Transport (φ : Type) : Type :=
  Batch → φ → Except Fault (List Acknowledgement) × φ

/-- How a transport in a state of type `ι` is opened. -/
abbrev Opener (ω ι : Type) : Type :=
  ω → Except Fault ι × ω

def openingRefused (errno : Os.Errno) : Fault :=
  .system "Failure opening mnl_socket" "NETLINK_NETFILTER" (.refused errno)

/-- The transport of a host without a packet filter. -/
def unavailable {φ : Type} : Transport φ := fun _ filter =>
  (.error (openingRefused .protocolNotSupported), filter)

/-- A transport that may not have been opened yet. -/
structure Lazy (ω ι : Type) where
  /-- The state of whoever opens the transport. -/
  opener : ω
  /-- The state of the transport, once it is open. -/
  inner : Option ι

namespace Lazy

variable {ω ι : Type}

def closed (opener : ω) : Lazy ω ι := ⟨opener, none⟩

def isOpen (state : Lazy ω ι) : Bool :=
  state.inner.isSome

/-- The transport that is opened on its first use. If opening fails it stays closed. -/
def transport (opening : Opener ω ι) (exchange : Transport ι) : Transport (Lazy ω ι) :=
  fun batch state =>
    match state.inner with
    | some inner =>
        let (outcome, inner) := exchange batch inner
        (outcome, { state with inner := some inner })
    | none =>
        match opening state.opener with
        | (.error fault, opener) => (.error fault, ⟨opener, none⟩)
        | (.ok inner, opener) =>
            let (outcome, inner) := exchange batch inner
            (outcome, ⟨opener, some inner⟩)

end Lazy

end OverlayNet.Masquerade
