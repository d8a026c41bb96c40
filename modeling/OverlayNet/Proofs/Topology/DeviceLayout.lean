import Mathlib
import OverlayNet.Proofs.Topology.ObedientLinks

set_option autoImplicit false

/-! # The layout of devices

While nothing goes wrong a host holds its uplink, the shared devices once a container was attached,
and a pair of devices for each container that is attached. What such a table answers follows from
which containers are attached. -/

namespace OverlayNet.Topology

variable {topology : Topology} {uplink : String}

/-- The devices that are not those of a container, given the address of the bridge once there was an
attachment. -/
def sharedDevices (topology : Topology) (uplink : String) : Option Cidr → List Device
  | none => [Device.fresh 1 uplink .physical]
  | some address =>
      [Device.fresh 1 uplink .physical, topology.finishedBridge 2 address,
        { topology.finishedVxlan 3 1 with master := some 2 }]

/-- The pair of devices of a container, given the number of the first one. -/
def containerDevices (entry : Wiring × Nat) : List Device :=
  [hostEnd entry.1.attachment entry.2 2, containerEnd entry.1 entry.2]

/-- Whether a request creates a shared device, or changes or deletes one of the first three
devices. -/
def isSharedWork : LinkRequest → Bool
  | .createBridge _ => true
  | .createVxlan _ _ => true
  | .setUp index => index ≤ 3
  | .setMaster index _ => index ≤ 3
  | .addAddress index _ => index ≤ 3
  | .moveInto index _ _ => index ≤ 3
  | .delete index => index ≤ 3
  | _ => false

/-- All the work on shared devices, given the address of the bridge once there was an attachment. -/
def sharedWork (topology : Topology) : Option Cidr → List LinkRequest
  | none => []
  | some address =>
      [.createBridge topology.bridge, .setUp 2, .addAddress 2 address,
        .createVxlan topology.vxlan 1, .setUp 3, .setMaster 3 2]

/-- Whether a table holds exactly the shared devices and the pairs of the attached containers, each
with its number. -/
structure Filled (topology : Topology) (uplink : String) (address? : Option Cidr)
    (attached : List Wiring) (table : DeviceTable) (entries : List (Wiring × Nat)) : Prop where
  attached : entries.map Prod.fst = attached
  above : ∀ entry ∈ entries, 3 < entry.2
  devices : table.devices =
    topology.sharedDevices uplink address? ++ entries.flatMap containerDevices

/-- Whether links hold exactly the devices that a history leaves, and have been asked exactly once
to do the work on shared ones. -/
structure Layout (topology : Topology) (uplink : String) (address? : Option Cidr)
    (attached : List Wiring) (links : Simulation) : Prop where
  obeys : links = obedient links.table links.requests
  numbered : Numbered links.table
  filled : ∃ entries, topology.Filled uplink address? attached links.table entries
  bare : address? = none → links.table.used = 1 ∧ attached = []
  work : links.requests.filter isSharedWork = topology.sharedWork address?

variable {address? : Option Cidr} {attached : List Wiring} {links : Simulation}

theorem of_mem_sharedDevices {device : Device}
    (member : device ∈ topology.sharedDevices uplink address?) :
    device.holder = none ∧ device.kind.peer? = none ∧
      (device.name = uplink ∨ topology.IsShared device.name) := by
  cases address? with
  | none =>
      rw [List.mem_singleton.mp member]
      exact ⟨rfl, rfl, .inl rfl⟩
  | some address =>
      simp only [sharedDevices, List.mem_cons, List.not_mem_nil, or_false] at member
      rcases member with rfl | rfl | rfl
      · exact ⟨rfl, rfl, .inl rfl⟩
      · exact ⟨rfl, rfl, .inr (.inl rfl)⟩
      · exact ⟨rfl, rfl, .inr (.inr rfl)⟩

/-- A device of a layout is a shared one or one end of a container's pair. -/
theorem Filled.mem_iff {table : DeviceTable} {entries : List (Wiring × Nat)} {device : Device}
    (filled : topology.Filled uplink address? attached table entries) :
    device ∈ table.devices ↔ device ∈ topology.sharedDevices uplink address? ∨
      ∃ entry ∈ entries, device = hostEnd entry.1.attachment entry.2 2 ∨
        device = containerEnd entry.1 entry.2 := by
  rw [filled.devices]
  simp [containerDevices]

private theorem find?_eq_none_of_unmatched {table : DeviceTable} {holder : Option Path}
    {name : String}
    (unmatched : ∀ device ∈ table.devices, device.isHeldBy holder = true → device.name ≠ name) :
    table.find? holder name = none := by
  rw [DeviceTable.find?, List.find?_eq_none]
  intro device member matching
  simp only [Bool.and_eq_true, decide_eq_true_eq] at matching
  exact unmatched device member matching.1 matching.2

/-- A name on the host that neither the uplink, a shared device nor an attached container has. -/
theorem Layout.find?_host (layout : topology.Layout uplink address? attached links)
    {name : String} (offUplink : name ≠ uplink) (own : ¬ topology.IsShared name)
    (free : ∀ wiring ∈ attached, wiring.attachment.names.host ≠ name) :
    links.table.find? none name = none := by
  obtain ⟨entries, filled⟩ := layout.filled
  obtain rfl := filled.attached
  apply find?_eq_none_of_unmatched
  intro device member onHost
  rcases filled.mem_iff.mp member with shared | ⟨entry, entryMember, rfl | rfl⟩
  · obtain ⟨-, -, isUplink | isShared⟩ := of_mem_sharedDevices shared
    · exact isUplink ▸ offUplink.symm
    · exact fun same => own (same ▸ isShared)
  · exact free entry.1 (List.mem_map_of_mem entryMember)
  · cases onHost

/-- The namespace of a container, however its path is spelled, and the name that its device has
there. -/
def place (attachment : Device.Attachment) : List String × String :=
  (Path.components ⟨attachment.namespacePath⟩, attachment.interfaceName)

/-- A name in a namespace that no attached container has there. -/
theorem Layout.find?_inside (layout : topology.Layout uplink address? attached links)
    {attachment : Device.Attachment}
    (free : ∀ wiring ∈ attached, place wiring.attachment ≠ place attachment) :
    links.table.find? (some ⟨attachment.namespacePath⟩) attachment.interfaceName = none := by
  obtain ⟨entries, filled⟩ := layout.filled
  obtain rfl := filled.attached
  apply find?_eq_none_of_unmatched
  intro device member inside named
  rcases filled.mem_iff.mp member with shared | ⟨entry, entryMember, rfl | rfl⟩
  · have moved := Device.isNone_of_isHeldBy inside
    rw [(of_mem_sharedDevices shared).1] at moved
    cases moved
  · cases Device.isNone_of_isHeldBy inside
  · simp only [Device.isHeldBy, containerEnd, Option.map_some, Option.some.injEq,
      decide_eq_true_eq] at inside
    apply free entry.1 (List.mem_map_of_mem entryMember)
    rw [place, place, Prod.mk.injEq]
    exact ⟨inside, named⟩

/-- The device that an attached container has on the host. -/
theorem Layout.exists_hostEnd (layout : topology.Layout uplink address? attached links)
    {wiring : Wiring} (member : wiring ∈ attached) :
    ∃ device, links.table.find? none wiring.attachment.names.host = some device := by
  obtain ⟨entries, filled⟩ := layout.filled
  obtain rfl := filled.attached
  obtain ⟨entry, entryMember, rfl⟩ := List.mem_map.mp member
  cases found : links.table.find? none entry.1.attachment.names.host with
  | some device => exact ⟨device, rfl⟩
  | none =>
      rw [DeviceTable.find?, List.find?_eq_none] at found
      have there := filled.mem_iff.mpr (.inr ⟨entry, entryMember, .inl rfl⟩)
      exact absurd (by simp [hostEnd, Device.fresh]) (found _ there)

section Established

variable {address : Cidr}

theorem Layout.find?_bridge (layout : topology.Layout uplink (some address) attached links)
    (offUplink : ¬ topology.IsShared uplink) :
    links.table.find? none topology.bridge = some (topology.finishedBridge 2 address) := by
  obtain ⟨entries, -, -, devices⟩ := layout.filled
  have notUplink : uplink ≠ topology.bridge := fun same => offUplink (.inl same)
  simp [DeviceTable.find?, devices, sharedDevices, finishedBridge, Device.fresh, notUplink]

theorem Layout.find?_vxlan (layout : topology.Layout uplink (some address) attached links)
    (offUplink : ¬ topology.IsShared uplink) (apart : topology.bridge ≠ topology.vxlan.name) :
    links.table.find? none topology.vxlan.name =
      some { topology.finishedVxlan 3 1 with master := some 2 } := by
  obtain ⟨entries, -, -, devices⟩ := layout.filled
  have notUplink : uplink ≠ topology.vxlan.name := fun same => offUplink (.inr same)
  simp [DeviceTable.find?, devices, sharedDevices, finishedBridge, finishedVxlan, Device.fresh,
    notUplink, apart]

end Established

section Removal

variable {attachment : Device.Attachment}

/-- An attached container's device on the host is found under its name, and is its own. -/
theorem Layout.find?_hostEnd (layout : topology.Layout uplink address? attached links)
    (own : ¬ topology.IsShared attachment.names.host) (offUplink : attachment.names.host ≠ uplink)
    (named : ∀ other ∈ attached, other.attachment ≠ attachment →
      other.attachment.names.host ≠ attachment.names.host)
    {entries : List (Wiring × Nat)}
    (filled : topology.Filled uplink address? attached links.table entries)
    (member : attachment ∈ attached.map Wiring.attachment) :
    ∃ entry ∈ entries, entry.1.attachment = attachment ∧
      links.table.find? none attachment.names.host = some (hostEnd attachment entry.2 2) := by
  obtain ⟨wiring, wiringMember, rfl⟩ := List.mem_map.mp member
  obtain ⟨device, found⟩ := layout.exists_hostEnd wiringMember
  obtain ⟨there, onHost, isHost⟩ := DeviceTable.of_find?_host found
  rcases filled.mem_iff.mp there with shared | ⟨entry, entryMember, rfl | rfl⟩
  · obtain ⟨-, -, isUplink | isShared⟩ := of_mem_sharedDevices shared
    · exact absurd (isHost.symm.trans isUplink) offUplink
    · exact absurd (isHost ▸ isShared) own
  · have sameName : entry.1.attachment.names.host = wiring.attachment.names.host := isHost
    have same : entry.1.attachment = wiring.attachment := by
      by_contra other
      exact named entry.1 (filled.attached ▸ List.mem_map_of_mem entryMember) other sameName
    exact ⟨entry, entryMember, same, same ▸ found⟩
  · cases onHost

private theorem filter_flatMap_of_split {α β : Type} {items : List α} {parts : α → List β}
    {keep : β → Bool} {chosen : α → Bool}
    (split : ∀ item ∈ items, ∀ part ∈ parts item, keep part = chosen item) :
    (items.flatMap parts).filter keep = (items.filter chosen).flatMap parts := by
  induction items with
  | nil => rfl
  | cons item rest ih =>
      have first := split item List.mem_cons_self
      have others := ih fun other member => split other (List.mem_cons_of_mem _ member)
      rw [List.flatMap_cons, List.filter_append, others]
      cases choice : chosen item with
      | true =>
          have all : (parts item).filter keep = parts item := by
            rw [List.filter_eq_self]
            exact fun part member => (first part member).trans choice
          rw [all, List.filter_cons_of_pos choice, List.flatMap_cons]
      | false =>
          have none : (parts item).filter keep = [] := by
            rw [List.filter_eq_nil_iff]
            intro part member kept
            rw [first part member, choice] at kept
            cases kept
          rw [none, List.nil_append, List.filter_cons_of_neg (by simp [choice])]

section Pair

variable {entries : List (Wiring × Nat)} {entry : Wiring × Nat}

/-- A number tells the device, since no number is used twice. -/
theorem Layout.of_pair_index (layout : topology.Layout uplink address? attached links)
    (filled : topology.Filled uplink address? attached links.table entries)
    (entryMember : entry ∈ entries) {device : Device} (there : device ∈ links.table.devices)
    (numbered : device.index ∈ [entry.2, entry.2 + 1]) :
    device = hostEnd entry.1.attachment entry.2 2 ∨ device = containerEnd entry.1 entry.2 := by
  have hostThere := filled.mem_iff.mpr (.inr ⟨entry, entryMember, .inl rfl⟩)
  have insideThere := filled.mem_iff.mpr (.inr ⟨entry, entryMember, .inr rfl⟩)
  rcases List.mem_pair.mp numbered with same | same
  · exact .inl (layout.numbered.distinct device there _ hostThere same)
  · exact .inr (layout.numbered.distinct device there _ insideThere same)

private theorem Layout.shared_index_notMem (layout : topology.Layout uplink address? attached links)
    (filled : topology.Filled uplink address? attached links.table entries)
    (entryMember : entry ∈ entries) {device : Device}
    (shared : device ∈ topology.sharedDevices uplink address?) :
    device.index ∉ [entry.2, entry.2 + 1] := by
  intro numbered
  have there := filled.mem_iff.mpr (.inl shared)
  have single := (of_mem_sharedDevices shared).2.1
  rcases layout.of_pair_index filled entryMember there numbered with rfl | rfl
  · cases single
  · cases single

/-- Only the devices of a container have the numbers of its pair. -/
theorem Layout.pair_index_mem_iff (layout : topology.Layout uplink address? attached links)
    (distinct : (attached.map Wiring.attachment).Nodup)
    (filled : topology.Filled uplink address? attached links.table entries)
    (entryMember : entry ∈ entries)
    (named : ∀ other ∈ attached, other.attachment ≠ entry.1.attachment →
      other.attachment.names.host ≠ entry.1.attachment.names.host)
    {other : Wiring × Nat} (otherMember : other ∈ entries) {device : Device}
    (own : device ∈ containerDevices other) :
    device.index ∈ [entry.2, entry.2 + 1] ↔ other.1.attachment = entry.1.attachment := by
  constructor
  · intro numbered
    have there : device ∈ links.table.devices := by
      rw [filled.devices]
      exact List.mem_append_right _ (List.mem_flatMap.mpr ⟨other, otherMember, own⟩)
    have inAttached : other.1 ∈ attached := filled.attached ▸ List.mem_map_of_mem otherMember
    by_contra different
    apply named other.1 inAttached different
    rcases List.mem_pair.mp own with rfl | rfl <;>
      rcases layout.of_pair_index filled entryMember there numbered with same | same
    · exact congrArg Device.name same
    · cases congrArg Device.holder same
    · cases congrArg Device.holder same
    · -- The ends in the containers are one device, hence so are those on the host.
      have sameNumber : other.2 = entry.2 := Nat.succ.inj (congrArg Device.index same)
      have otherThere := filled.mem_iff.mpr (.inr ⟨other, otherMember, .inl rfl⟩)
      have hostThere := filled.mem_iff.mpr (.inr ⟨entry, entryMember, .inl rfl⟩)
      exact congrArg Device.name
        (layout.numbered.distinct _ otherThere _ hostThere sameNumber)
  · intro same
    have apart : (entries.map fun entry => entry.1.attachment).Nodup := by
      rwa [← filled.attached, List.map_map] at distinct
    obtain rfl := List.inj_on_of_nodup_map apart otherMember entryMember same
    rcases List.mem_pair.mp own with rfl | rfl
    · exact List.mem_cons_self
    · exact List.mem_cons_of_mem _ (List.mem_singleton_self _)

/-- Dropping the pair of a container leaves the devices of all others. -/
theorem Layout.devices_drop (layout : topology.Layout uplink address? attached links)
    (distinct : (attached.map Wiring.attachment).Nodup)
    (filled : topology.Filled uplink address? attached links.table entries)
    (entryMember : entry ∈ entries)
    (named : ∀ other ∈ attached, other.attachment ≠ entry.1.attachment →
      other.attachment.names.host ≠ entry.1.attachment.names.host) :
    (links.table.drop [entry.2, entry.2 + 1]).devices =
      topology.sharedDevices uplink address? ++
        (entries.filter fun other => other.1.attachment ≠ entry.1.attachment).flatMap
          containerDevices := by
  have sharedSame : (topology.sharedDevices uplink address?).filter
      (fun device => device.index ∉ [entry.2, entry.2 + 1]) =
      topology.sharedDevices uplink address? := by
    rw [List.filter_eq_self]
    exact fun device shared =>
      decide_eq_true (layout.shared_index_notMem filled entryMember shared)
  have containers : (entries.flatMap containerDevices).filter
      (fun device => device.index ∉ [entry.2, entry.2 + 1]) =
      (entries.filter fun other => other.1.attachment ≠ entry.1.attachment).flatMap
        containerDevices := by
    apply filter_flatMap_of_split
    intro other otherMember device own
    rw [decide_eq_decide, not_iff_not]
    exact layout.pair_index_mem_iff distinct filled entryMember named otherMember own
  rw [DeviceTable.drop, filled.devices, List.filter_append, sharedSame, containers]

end Pair

end Removal

end OverlayNet.Topology
