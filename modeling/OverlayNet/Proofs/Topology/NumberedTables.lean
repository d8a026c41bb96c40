import Mathlib
import OverlayNet.Proofs.Topology.Extension
import OverlayNet.Proofs.Topology.MatchingChannels
import OverlayNet.Proofs.Topology.Routability

set_option autoImplicit false

/-! # The numbers of devices

A table gives each device a number of its own and takes none back, whatever is asked of it. So
attaching and detaching containers, whichever requests are refused, leads from a new table only to
tables whose devices can be told apart by their numbers, which is what cleaning up behind a failure
and leaving devices alone rest on. -/

namespace OverlayNet.Topology

variable {φ : Type} {table : DeviceTable} {change : Device → Device}

private theorem Numbered.of_change (numbered : Numbered table)
    (kept : ∀ device, (change device).index = device.index) (index : Nat) :
    Numbered (table.change index change).2 := by
  rw [DeviceTable.change]
  split
  · exact numbered
  · exact numbered.adjust kept index

/-- Whatever is asked of a table, its devices keep numbers of their own. -/
theorem Numbered.answer (numbered : Numbered table) (request : LinkRequest) :
    Numbered (DeviceTable.answer request table).2 := by
  cases request with
  | indexOf name => exact numbered
  | masterOf index =>
      simp only [DeviceTable.answer]
      split <;> exact numbered
  | createBridge name =>
      simp only [DeviceTable.answer]
      split
      · exact numbered
      · exact numbered.add name _
  | createVxlan vxlan uplink =>
      simp only [DeviceTable.answer]
      split
      · exact numbered
      · exact numbered.add vxlan.name _
  | createPair name peer =>
      simp only [DeviceTable.answer]
      split
      · exact numbered
      · exact (numbered.add name _).add peer _
  | moveInto index target name =>
      refine numbered.of_change ?_ index
      exact fun _ => rfl
  | setUp index =>
      refine numbered.of_change ?_ index
      exact fun _ => rfl
  | setMaster index master =>
      refine numbered.of_change ?_ index
      exact fun _ => rfl
  | addAddress index cidr =>
      refine numbered.of_change ?_ index
      exact fun _ => rfl
  | configureIn target name cidr gateway =>
      simp only [DeviceTable.answer]
      split
      · exact numbered
      · refine numbered.of_change ?_ _
        exact fun _ => rfl
  | delete index =>
      simp only [DeviceTable.answer]
      split
      · exact numbered
      · exact numbered.drop _

/-- Whether the devices of a simulation have numbers of their own, and no request is swallowed. -/
structure Orderly (simulation : Simulation) : Prop where
  clean : simulation.swallowed = []
  numbered : Numbered simulation.table

theorem orderly_withUplink (uplink : Option String) : Orderly (.withUplink uplink) := by
  constructor
  case clean => rfl
  case numbered =>
    cases uplink with
    | none => exact numbered_empty
    | some name => exact numbered_empty.add name .physical

theorem Orderly.answer {simulation : Simulation} (orderly : Orderly simulation)
    (request : LinkRequest) : Orderly (Simulation.answer request simulation).2 := by
  obtain ⟨clean, ⟨fault, -, same⟩ | ⟨-, answered⟩⟩ :=
    answer_refused_or_answered request orderly.clean
  · exact ⟨clean, same ▸ orderly.numbered⟩
  · exact ⟨clean, answered ▸ orderly.numbered.answer request⟩

/-- One call, whichever of its requests fail. -/
theorem Orderly.after_call (topology : Topology) {host : Host Simulation φ}
    (orderly : Orderly host.links) (call : Call) : Orderly (call.after topology host).links := by
  have matching : LinkChannel.Matches (fun first second => first = second ∧ Orderly first)
      Simulation.answer Simulation.answer :=
    matches_self fun request _ held => held.answer request
  cases call with
  | attach failures wiring =>
      apply (alongside_attach matching topology wiring).keeps (planned failures host)
      exact ⟨orderly.clean, orderly.numbered⟩
  | detach failures attachment =>
      apply (alongside_detach matching attachment).keeps (planned failures host)
      exact ⟨orderly.clean, orderly.numbered⟩

/-- Whatever containers were attached and detached before, and whichever requests were refused on
the way, no two devices have the same number. -/
theorem orderly_after (topology : Topology) {start : Host Simulation φ} {uplink : Option String}
    (fresh : start.links = .withUplink uplink) (calls : List Call) :
    Orderly (topology.after start calls).links := by
  have begins : Orderly start.links := by
    rw [fresh]
    exact orderly_withUplink uplink
  clear fresh
  induction calls generalizing start with
  | nil => exact begins
  | cons call calls ih => exact ih (begins.after_call topology call)

end OverlayNet.Topology
