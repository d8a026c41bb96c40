import Mathlib
import OverlayNet.Proofs.Topology.MatchingChannels

set_option autoImplicit false

/-! # Channels that keep a record

A channel can keep a record of what it was asked and what it answered. Attaching a container over
such a channel comes to the same as over the channel itself. -/

namespace OverlayNet

/-- A request and what came of it. -/
structure Exchange where
  request : LinkRequest
  outcome : Except Fault request.Answer

variable {κ φ : Type}

/-- A channel that keeps what it is asked and what it answers, the oldest exchange first. -/
def LinkChannel.recorded (channel : LinkChannel κ) : LinkChannel (κ × List Exchange) :=
  fun request (links, trace) =>
    let (outcome, later) := channel request links
    (outcome, later, trace ++ [⟨request, outcome⟩])

namespace Host

/-- A host with a record of exchanges that has just been started. -/
def recording (host : Host κ φ) : Host (κ × List Exchange) φ :=
  { host with links := (host.links, []) }

/-- A host without its record of exchanges. -/
def forget (host : Host (κ × List Exchange) φ) : Host κ φ :=
  { host with links := host.links.1 }

end Host

theorem LinkChannel.recorded_matches (channel : LinkChannel κ) :
    channel.recorded.Matches (fun recorded links => recorded.1 = links) channel := by
  rintro request ⟨links, trace⟩ _ rfl
  exact ⟨rfl, rfl⟩

namespace Topology

/-- A record of the exchanges makes no difference to an attachment. -/
theorem records_attach (topology : Topology) (channel : LinkChannel κ) (wiring : Wiring)
    (host : Host κ φ) :
    (topology.attach channel wiring).outcome host =
      (((topology.attach channel.recorded wiring).outcome host.recording).1,
        ((topology.attach channel.recorded wiring).outcome host.recording).2.forget) := by
  have along := alongside_attach (φ := φ) channel.recorded_matches topology wiring
  obtain ⟨sameResult, matched⟩ := along host.recording host ⟨rfl, rfl, rfl, rfl⟩
  obtain ⟨files, links, filter, log⟩ := matched
  apply Prod.ext sameResult.symm
  rw [Host.forget, files, links, filter, log]

end Topology

end OverlayNet
