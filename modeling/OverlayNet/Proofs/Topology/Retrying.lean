import Mathlib
import OverlayNet.Proofs.Topology.Residue

set_option autoImplicit false

/-! # Attaching a container again

An attachment that failed is tried once more, without a detachment in between. The shared devices
that it left are no obstacle to that, but its pair of devices is: a pair cannot be created twice. -/

namespace OverlayNet.Topology

variable {φ : Type} {topology : Topology} {wiring : Wiring}

/-- On obedient links a container is not attached while the name of its device on the host is in
use. -/
theorem attach_of_taken {table : DeviceTable} {requests : List LinkRequest}
    (numbered : Numbered table) {taken carrier : Device}
    (inUse : table.find? none wiring.attachment.names.host = some taken)
    (carried : table.find? none wiring.uplink = some carrier) {host : Host Simulation φ}
    (started : host.links = obedient table requests) {node : Files.Node}
    (opened : Namespace.nodeAt ⟨wiring.attachment.namespacePath⟩ host.files = .ok node) :
    ∃ last, (topology.attach Simulation.answer wiring).outcome host =
      (.error (.rejected "Failure creating veth" "File exists"), last) := by
  obtain ⟨bridged, _, _, bridging, bridgedGrown, -⟩ :=
    exists_comes_ensureBridge (φ := φ) topology numbered wiring.bridgeCidr
  obtain ⟨overlaid, _, _, overlaying, overlaidGrown, -⟩ :=
    exists_comes_ensureVxlan (φ := φ) topology bridgedGrown.numbered
      (bridgedGrown.find?_of_some carried)
  have stillInUse : overlaid.find? none wiring.attachment.names.host = some taken :=
    overlaidGrown.find?_of_some (bridgedGrown.find?_of_some inUse)
  obtain ⟨log, refused⟩ := outcome_attach_of_comes opened started bridging overlaying
    (comes_connect_taken stillInUse)
  exact ⟨_, refused⟩

/-- A pair that is built in part takes the name of the container's device on the host. -/
theorem HalfBuilt.taken {base table : DeviceTable} {attachment : Device.Attachment}
    (built : HalfBuilt attachment base table) (vacant : Vacant attachment base) :
    ∃ device, table.find? none attachment.names.host = some device := by
  obtain ⟨first, second, rfl, -, isHost, onHost, -, -⟩ := built
  refine ⟨first, ?_⟩
  rw [DeviceTable.find?_extend, vacant.host, Option.none_or]
  simp [onHost, isHost]

private theorem HalfBuilt.find?_of_some {base table : DeviceTable} {attachment : Device.Attachment}
    (built : HalfBuilt attachment base table) {holder : Option Path} {name : String}
    {device : Device} (found : base.find? holder name = some device) :
    table.find? holder name = some device := by
  obtain ⟨first, second, rfl, -⟩ := built
  exact DeviceTable.find?_extend_of_some found _ _

/-- Whatever requests of an attachment are refused, once none is any more the attachment can be
tried again: it succeeds if the failed attempt had not created the container's pair of devices, and
otherwise it is rejected because that pair is still there. -/
theorem retry_succeeds_unless_pair_created (topology : Topology) (wiring : Wiring)
    (host : Host Simulation φ) (clean : host.links.swallowed = [])
    (numbered : Numbered host.links.table) (carrier : Device)
    (carried : host.links.table.find? none wiring.uplink = some carrier)
    (vacant : Vacant wiring.attachment host.links.table)
    (own : topology.OwnNames wiring.attachment) (node : Files.Node)
    (opened : Namespace.nodeAt ⟨wiring.attachment.namespacePath⟩ host.files = .ok node)
    (fault : Fault) (later : Host Simulation φ)
    (failed : (topology.attach Simulation.answer wiring).outcome host = (.error fault, later)) :
    (¬ topology.PairCreated Simulation.answer wiring host →
      ∃ last, (topology.attach Simulation.answer wiring).outcome (healed later) =
        (.ok wiring.attachment.names, last)) ∧
    (topology.PairCreated Simulation.answer wiring host →
      ∃ last, (topology.attach Simulation.answer wiring).outcome (healed later) =
        (.error (.rejected "Failure creating veth" "File exists"), last)) := by
  obtain ⟨untouched, base, grown, residue⟩ := attach_residue clean numbered vacant failed
  have stillOpened : Namespace.nodeAt ⟨wiring.attachment.namespacePath⟩ (healed later).files =
      .ok node := by
    rw [← opened, ← untouched.1]
    rfl
  have vacantBase := grown.vacant vacant own
  have carriedBase := grown.find?_of_some carried
  rcases residue with ⟨created, built⟩ | ⟨uncreated, rfl⟩
  case inl =>
    refine ⟨fun uncreated => absurd created uncreated, fun _ => ?_⟩
    obtain ⟨taken, inUse⟩ := built.taken vacantBase
    exact attach_of_taken (built.numbered grown.numbered) inUse
      (built.find?_of_some carriedBase) (links_healed later) stillOpened
  case inr =>
    refine ⟨fun _ => ?_, fun created => absurd created uncreated⟩
    exact attach_of_vacant grown.numbered vacantBase own carriedBase (links_healed later)
      stillOpened

/-- The next attempt to attach a container whose pair was created and moved but not configured. -/
def retriedAttempt : Except Fault Device.Names × Host Simulation Unit :=
  (usualTopology.attach Simulation.answer firstWiring).outcome (healed unconfigurableAttempt.2)

/-- An attachment whose container could not be configured fails again although nothing is refused
any more. -/
theorem retriedAttempt_rejected :
    Vacant firstWiring.attachment unconfigurableHost.links.table ∧
      unconfigurableAttempt.1 =
        .error (.rejected "Injected failure in configure_in_namespace" "Operation not permitted") ∧
      retriedAttempt.1 = .error (.rejected "Failure creating veth" "File exists") := by
  refine ⟨⟨?_, ?_, ?_⟩, ?_, ?_⟩ <;> decide +kernel

/-- A host on which the pair of a container cannot be created. -/
def pairlessHost : Host Simulation Unit :=
  planned [⟨"create_veth", 0, true, "Operation not permitted"⟩] bareHost

def pairlessAttempt : Except Fault Device.Names × Host Simulation Unit :=
  (usualTopology.attach Simulation.answer firstWiring).outcome pairlessHost

private theorem pairlessAttempt_eq :
    pairlessAttempt =
      (.error (.rejected "Injected failure in create_veth" "Operation not permitted"),
        pairlessAttempt.2) := by
  apply Prod.ext
  · decide +kernel
  · rfl

private theorem not_pairCreated_pairlessHost :
    ¬ usualTopology.PairCreated Simulation.answer firstWiring pairlessHost := by
  let shared := (usualTopology.ensureShared Simulation.answer firstWiring).outcome pairlessHost
  have done : shared = (.ok (), shared.2) := by
    apply Prod.ext
    · decide +kernel
    · rfl
  rw [pairCreated_iff done]
  intro created
  obtain ⟨later, asked⟩ := created
  have refused : ((Procedure.ask Simulation.answer (.createPair firstWiring.attachment.names.host
      firstWiring.attachment.names.transient)).outcome shared.2).1 ≠ .ok () := by
    decide +kernel
  exact refused (congrArg Prod.fst asked)

/-- An attachment over which only the shared devices were created is made good by the next one. -/
theorem retry_succeeds_pairlessHost :
    ¬ usualTopology.PairCreated Simulation.answer firstWiring pairlessHost ∧
      ∃ last, (usualTopology.attach Simulation.answer firstWiring).outcome
        (healed pairlessAttempt.2) = (.ok firstWiring.attachment.names, last) := by
  have vacant : Vacant firstWiring.attachment pairlessHost.links.table :=
    ⟨by decide +kernel, by decide +kernel, by decide +kernel⟩
  have own : usualTopology.OwnNames firstWiring.attachment := by
    simp only [OwnNames, IsShared]
    decide +kernel
  refine ⟨not_pairCreated_pairlessHost, ?_⟩
  exact (retry_succeeds_unless_pair_created usualTopology firstWiring pairlessHost rfl
    (numbered_empty.add "eth0" .physical) (Device.fresh 1 "eth0" .physical) (by decide +kernel)
    vacant own (.file [] Files.newFileMode) (by decide +kernel) _ _ pairlessAttempt_eq).1
    not_pairCreated_pairlessHost

end OverlayNet.Topology
