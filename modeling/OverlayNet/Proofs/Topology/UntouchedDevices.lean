import Mathlib
import OverlayNet.Proofs.Topology.Residue

set_option autoImplicit false

/-! # Devices that are left alone

Attaching a container adds devices of its own and leaves all others alone, except that the overlay
device may be given to the bridge. Detaching it deletes its pair and nothing else. That does not
depend on the names of the devices that are there, nor on which requests are refused. -/

namespace OverlayNet.Topology

variable {φ : Type} {topology : Topology} {attachment : Device.Attachment}
  {before base after later : DeviceTable}

section Added

/-- Whether devices are the pair of a container, or none. -/
inductive PairOrNothing (attachment : Device.Attachment) : List Device → Prop where
  | nothing : PairOrNothing attachment []
  | pair {first second : Device} (isHost : first.name = attachment.names.host)
      (onHost : first.holder = none) (kind : first.kind = .pair second.index) :
      PairOrNothing attachment [first, second]

/-- Whether behind certain devices, a table holds nothing but shared devices that were missing and
the pair of a container. -/
def AddsTo (topology : Topology) (attachment : Device.Attachment) (before : DeviceTable)
    (kept : List Device) (after : DeviceTable) : Prop :=
  ∃ shared pair, after.devices = kept ++ (shared ++ pair) ∧
    topology.SharedAdditions before shared ∧ PairOrNothing attachment pair ∧
    (shared ++ pair).length ≤ 4

/-- The devices of a table once the overlay device, if it is there, has another bridge. -/
def rejoined (topology : Topology) (before : DeviceTable) (bridge : Nat) : List Device :=
  before.devices.map fun device =>
    if before.find? none topology.vxlan.name = some device then
      { device with master := some bridge }
    else device

theorem SharedAdditions.length_le {added : List Device}
    (additions : topology.SharedAdditions before added) : added.length ≤ 2 := by
  obtain ⟨shared, nodup⟩ := additions
  have named : added.map Device.name ⊆ [topology.bridge, topology.vxlan.name] := by
    intro name member
    obtain ⟨device, there, rfl⟩ := List.mem_map.mp member
    obtain ⟨-, ⟨isBridge, -⟩ | ⟨isVxlan, -⟩⟩ := shared device there
    · simp [isBridge]
    · simp [isVxlan]
  simpa using (List.subperm_of_subset nodup named).length_le

private theorem AddsTo.of_pair {kept shared pair : List Device}
    (devices : after.devices = kept ++ (shared ++ pair))
    (additions : topology.SharedAdditions before shared) (paired : PairOrNothing attachment pair) :
    topology.AddsTo attachment before kept after := by
  refine ⟨shared, pair, devices, additions, paired, ?_⟩
  have short := additions.length_le
  rw [List.length_append]
  cases paired with
  | nothing => exact short.trans (by decide)
  | pair => exact Nat.add_le_add_right short 2

/-- A change of the device of one number. -/
theorem Tame.only {change : Device → Device} (tame : Tame change) (index : Nat) :
    Tame fun device => if device.index = index then change device else device := by
  constructor <;> intro device <;> by_cases meant : device.index = index
  all_goals simp [meant, tame.index, tame.kind, tame.holder, tame.name]
  exact tame.up device

theorem SharedAdditions.map {shared : List Device}
    (additions : topology.SharedAdditions before shared) {change : Device → Device}
    (tame : Tame change) : topology.SharedAdditions before (shared.map change) := by
  obtain ⟨additions, nodup⟩ := additions
  constructor
  · intro device member
    obtain ⟨other, otherMember, rfl⟩ := List.mem_map.mp member
    rw [SharedAddition, tame.holder, tame.name, tame.kind]
    exact additions other otherMember
  · have names : (shared.map change).map Device.name = shared.map Device.name := by
      simp [Function.comp_def, tame.name]
    rwa [names]

theorem PairOrNothing.map {pair : List Device} (paired : PairOrNothing attachment pair)
    {change : Device → Device} (tame : Tame change) :
    PairOrNothing attachment (pair.map change) := by
  cases paired with
  | nothing => exact .nothing
  | pair isHost onHost kind =>
      refine .pair ?_ ?_ ?_
      · rw [tame.name, isHost]
      · rw [tame.holder, onHost]
      · rw [tame.kind, tame.index, kind]

private theorem Grown.addsTo (grown : topology.Grown before after) :
    topology.AddsTo attachment before before.devices after := by
  obtain ⟨added, devices, additions⟩ := grown.grown
  exact .of_pair (by rw [devices, List.append_nil]) additions .nothing

private theorem HalfBuilt.addsTo (built : HalfBuilt attachment base after)
    (grown : topology.Grown before base) :
    topology.AddsTo attachment before before.devices after := by
  obtain ⟨first, second, rfl, -, isHost, onHost, kind, secondIndex⟩ := built
  obtain ⟨added, devices, additions⟩ := grown.grown
  rw [← secondIndex] at kind
  refine .of_pair ?_ additions (.pair isHost onHost kind)
  rw [DeviceTable.extend, devices, List.append_assoc]

end Added

section Rejoined

variable {joined : DeviceTable} {vxlan : Device}

/-- In a table with more devices at its end, the number of the overlay device is that of no earlier
device but the one that has its name. -/
theorem map_eq_rejoined {added : List Device} (numbered : Numbered joined)
    (devices : joined.devices = before.devices ++ added)
    (found : joined.find? none topology.vxlan.name = some vxlan) (bridge : Nat) :
    (before.devices.map fun device =>
        if device.index = vxlan.index then { device with master := some bridge } else device) =
      topology.rejoined before bridge := by
  have extended : joined = before.extend added joined.used := by
    rw [DeviceTable.extend, ← devices]
  have earlier : ∀ device, before.find? none topology.vxlan.name = some device →
      device = vxlan := by
    intro device foundBefore
    rw [extended, DeviceTable.find?_extend_of_some foundBefore] at found
    exact Option.some.inj found
  obtain ⟨vxlanMember, onHost, named⟩ := DeviceTable.of_find?_host found
  apply List.map_congr_left
  intro device member
  have meant : device.index = vxlan.index ↔
      before.find? none topology.vxlan.name = some device := by
    constructor
    · intro same
      have member : device ∈ joined.devices := by
        rw [devices]
        exact List.mem_append_left added member
      obtain rfl := numbered.distinct device member vxlan vxlanMember same
      cases foundBefore : before.find? none topology.vxlan.name with
      | some other => rw [earlier other foundBefore]
      | none =>
          rw [DeviceTable.find?, List.find?_eq_none] at foundBefore
          exact absurd (foundBefore device ‹_›) (by simp [onHost, named])
    · intro foundBefore
      rw [earlier device foundBefore]
  simp only [meant]

/-- A device that is given to a bridge is a shared device or one of a pair as before. -/
theorem AddsTo.of_vxlanJoined (adds : topology.AddsTo attachment before before.devices joined)
    (numbered : Numbered joined) (joins : topology.VxlanJoined joined after) :
    topology.AddsTo attachment before before.devices after ∨
      ∃ bridge, after.find? none topology.bridge = some bridge ∧
        topology.AddsTo attachment before (topology.rejoined before bridge.index) after := by
  rcases joins with rfl | ⟨vxlan, bridge, vxlanFound, bridgeFound, rfl⟩
  case inl => exact .inl adds
  case inr =>
    obtain ⟨shared, pair, devices, additions, paired, -⟩ := adds
    let change (device : Device) : Device :=
      if device.index = vxlan.index then { device with master := some bridge.index } else device
    have given := tame_master bridge.index
    have tame : Tame change := given.only vxlan.index
    have kept := map_eq_rejoined numbered devices vxlanFound bridge.index
    have mapped : (joined.adjust vxlan.index fun device =>
        { device with master := some bridge.index }).devices =
          topology.rejoined before bridge.index ++ (shared.map change ++ pair.map change) := by
      rw [← kept, ← List.map_append, ← List.map_append, ← devices]
      rfl
    refine .inr ⟨change bridge, ?found, ?adds⟩
    case found =>
      rw [DeviceTable.find?_adjust given.holder given.name, bridgeFound, Option.map_some]
    case adds =>
      rw [tame.index bridge]
      exact .of_pair mapped (additions.map tame) (paired.map tame)

end Rejoined

section Frame

/-- Whatever requests of an attachment are refused, it adds devices and leaves the others alone. -/
theorem attach_adds (topology : Topology) (wiring : Wiring) {host later : Host Simulation φ}
    {result : Except Fault Device.Names} (clean : host.links.swallowed = [])
    (numbered : Numbered host.links.table)
    (interfaceFree : host.links.table.find? (some ⟨wiring.attachment.namespacePath⟩)
      wiring.attachment.interfaceName = none)
    (attached : (topology.attach Simulation.answer wiring).outcome host = (result, later)) :
    topology.AddsTo wiring.attachment host.links.table host.links.table.devices
        later.links.table ∨
      ∃ names bridge, result = .ok names ∧
        later.links.table.find? none topology.bridge = some bridge ∧
        topology.AddsTo wiring.attachment host.links.table
          (topology.rejoined host.links.table bridge.index) later.links.table := by
  rcases attach_cases topology clean numbered interfaceFree with
    ⟨fault, last, stopped, -, grown, -⟩ | ⟨base, grown, -, stopped | succeeded⟩
  · obtain ⟨-, rfl⟩ := Prod.mk.inj (attached.symm.trans stopped)
    exact .inl grown.addsTo
  · obtain ⟨fault, last, stopped, -, built⟩ := stopped
    obtain ⟨-, rfl⟩ := Prod.mk.inj (attached.symm.trans stopped)
    exact .inl (built.addsTo grown)
  · obtain ⟨names, last, joined, done, -, built, joins⟩ := succeeded
    obtain ⟨rfl, rfl⟩ := Prod.mk.inj (attached.symm.trans done)
    obtain adds | ⟨bridge, found, adds⟩ :=
      (built.addsTo grown).of_vxlanJoined (built.numbered grown.numbered) joins
    · exact .inl adds
    · exact .inr ⟨names, bridge, rfl, found, adds⟩

/-- Detaching deletes the device of a name and the one that it is joined to, or nothing. -/
theorem wires_detach_exact {table : DeviceTable} (numbered : Numbered table)
    (attachment : Device.Attachment) :
    Wires (detach Simulation.answer attachment : Action Simulation φ Unit)
      (fun _ later => ∃ device, table.find? none attachment.names.host = some device ∧
        later = table.drop (device.index :: device.kind.peer?.toList))
      (Eq table) table := by
  unfold detach
  apply wires_bind
  apply wires_requireIndex rfl
  intro device found
  apply wires_bind
  apply wires_ask rfl
  intro value later answered
  simp only [DeviceTable.answer, device?_of_find? numbered found] at answered
  obtain ⟨-, rfl⟩ := Prod.mk.inj answered
  exact wires_inform ⟨device, found, rfl⟩

/-- Attaching and detaching leave devices alone that they have not made. Whichever requests are
refused, and whatever devices there are, if only the container's interface is new, every device is
the same behind an attachment, except that the host's device with the name of the overlay device may
have been given to the bridge. At most four devices are added: shared ones that were missing, and
the pair of the container. Detaching any container deletes exactly the host's device of its name and
the one that this is joined to if it succeeds, and changes nothing if it fails. -/
theorem attach_detach_frame (topology : Topology) (host : Host Simulation φ)
    (clean : host.links.swallowed = []) (numbered : Numbered host.links.table) :
    (∀ wiring : Wiring, host.links.table.find? (some ⟨wiring.attachment.namespacePath⟩)
        wiring.attachment.interfaceName = none →
      ∀ result later, (topology.attach Simulation.answer wiring).outcome host = (result, later) →
        topology.AddsTo wiring.attachment host.links.table host.links.table.devices
            later.links.table ∨
          ∃ names bridge, result = .ok names ∧
            later.links.table.find? none topology.bridge = some bridge ∧
            topology.AddsTo wiring.attachment host.links.table
              (topology.rejoined host.links.table bridge.index) later.links.table) ∧
    ∀ attachment : Device.Attachment, ∀ result later,
      (detach Simulation.answer attachment).outcome host = (result, later) →
        (∃ fault, result = .error fault) ∧ later.links.table = host.links.table ∨
          result = .ok () ∧ ∃ device,
            host.links.table.find? none attachment.names.host = some device ∧
            later.links.table.devices = host.links.table.devices.filter fun other =>
              other.index ∉ device.index :: device.kind.peer?.toList := by
  constructor
  · intro wiring interfaceFree result later attached
    exact attach_adds topology wiring clean numbered interfaceFree attached
  · intro attachment result later detached
    rcases (wires_detach_exact (φ := φ) numbered attachment).cases clean with
      ⟨fault, last, failed, -, same⟩ | ⟨_, last, done, -, device, found, dropped⟩
    · obtain ⟨rfl, rfl⟩ := Prod.mk.inj (detached.symm.trans failed)
      exact .inl ⟨⟨fault, rfl⟩, same.symm⟩
    · obtain ⟨rfl, rfl⟩ := Prod.mk.inj (detached.symm.trans done)
      exact .inr ⟨rfl, device, found, by rw [dropped, DeviceTable.drop]⟩

/-- A host on which a physical device has the name of the overlay device. -/
def occupiedHost : Host Simulation Unit :=
  { bareHost with
    links := { bareHost.links with
      table := bareHost.links.table.add usualTopology.vxlan.name .physical } }

def occupiedAttempt : Except Fault Device.Names × Host Simulation Unit :=
  (usualTopology.attach Simulation.answer firstWiring).outcome occupiedHost

/-- The device is given to the bridge, and a container that is not attached is not detached. -/
theorem attach_detach_frame_occupied :
    (∃ bridge, usualTopology.AddsTo firstWiring.attachment occupiedHost.links.table
        (usualTopology.rejoined occupiedHost.links.table bridge) occupiedAttempt.2.links.table) ∧
      ((detach Simulation.answer firstWiring.attachment).outcome occupiedHost).2.links.table =
        occupiedHost.links.table := by
  have numbered : Numbered occupiedHost.links.table :=
    (numbered_empty.add "eth0" .physical).add usualTopology.vxlan.name .physical
  obtain ⟨attaching, detaching⟩ :=
    attach_detach_frame usualTopology occupiedHost rfl numbered
  constructor
  · have attached : (usualTopology.attach Simulation.answer firstWiring).outcome occupiedHost =
        (occupiedAttempt.1, occupiedAttempt.2) := Prod.mk.eta.symm
    rcases attaching firstWiring (by decide +kernel) _ _ attached with unchanged | joined
    · have masters : (occupiedAttempt.2.links.table.devices.take 2).map Device.master =
          [none, some 3] := by
        decide +kernel
      have two : occupiedHost.links.table.devices.length = 2 := rfl
      obtain ⟨shared, pair, devices, -⟩ := unchanged
      rw [devices, List.take_left' two] at masters
      exact absurd masters (by decide +kernel)
    · obtain ⟨names, bridge, -, -, adds⟩ := joined
      exact ⟨bridge.index, adds⟩
  · have missing : occupiedHost.links.table.find? none firstWiring.attachment.names.host =
        none := by
      decide +kernel
    rcases detaching firstWiring.attachment _ _ Prod.mk.eta.symm with
      ⟨-, same⟩ | ⟨-, device, found, -⟩
    · exact same
    · cases missing.symm.trans found

end Frame

end OverlayNet.Topology
