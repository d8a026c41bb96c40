import Mathlib
import OverlayNet.Proofs.Topology.DeviceLayout
import OverlayNet.Proofs.Topology.Residue

set_option autoImplicit false

/-! # The devices of the attached containers

Over every history in which nothing is refused by plan, the table holds exactly the uplink, the
shared devices once there was an attachment, and a pair of devices for each container that is
attached. The shared devices are worked on only once. -/

namespace OverlayNet.Topology

variable {φ : Type} {topology : Topology} {uplink : String}

namespace Call

def plan : Call → List PlannedFailure
  | .attach failures _ => failures
  | .detach failures _ => failures

def attachment : Call → Device.Attachment
  | .attach _ wiring => wiring.attachment
  | .detach _ attachment => attachment

/-- The containers that are attached behind a call, in the order in which they were. -/
def attachedAfter (attached : List Wiring) : Call → List Wiring
  | .attach _ wiring =>
      if wiring.attachment ∈ attached.map Wiring.attachment then attached
      else attached ++ [wiring]
  | .detach _ attachment => attached.filter fun wiring => wiring.attachment ≠ attachment

/-- The address that the bridge is given behind a call: that of the first attachment. -/
def addressAfter (address? : Option Cidr) : Call → Option Cidr
  | .attach _ wiring => address?.or (some wiring.bridgeCidr)
  | .detach _ _ => address?

end Call

def attachedBehind (calls : List Call) : List Wiring :=
  calls.foldl Call.attachedAfter []

def addressBehind (calls : List Call) : Option Cidr :=
  calls.foldl Call.addressAfter none

section Steps

/-- Whether an attachment is over the uplink and finds the namespace of its container. -/
def Call.Reaches (uplink : String) (files : Files.Tree) : Call → Prop
  | .attach _ wiring =>
      wiring.uplink = uplink ∧
        ∃ node, Namespace.nodeAt ⟨wiring.attachment.namespacePath⟩ files = .ok node
  | .detach _ _ => True

/-- Whether a call is one whose devices cannot be taken for others: nothing fails during it, its
names are not those of the uplink, of a shared device or of another attached container, and the
containers that are attached behind it have places of their own. -/
structure Call.Fits (topology : Topology) (uplink : String) (files : Files.Tree)
    (attached : List Wiring) (call : Call) : Prop where
  unplanned : call.plan = []
  own : topology.OwnNames call.attachment
  offUplink : call.attachment.names.host ≠ uplink ∧ call.attachment.names.transient ≠ uplink
  named : ∀ other ∈ attached, other.attachment ≠ call.attachment →
    other.attachment.names.host ≠ call.attachment.names.host
  reached : call.Reaches uplink files
  placed : ((call.attachedAfter attached).map fun wiring => place wiring.attachment).Nodup

/-- Whether a host differs from another one at most in what was recorded. -/
def OnlyRecords (before after : Host Simulation φ) : Prop :=
  ∃ requests log, after = { before with links := { before.links with requests }, log }

/-- Whether a call comes to what it should, given the containers that are attached. -/
def Call.Answered (topology : Topology) (attached : List Wiring) (host : Host Simulation φ) :
    Call → Prop
  | .attach failures wiring =>
      let finish := (topology.attach Simulation.answer wiring).outcome (planned failures host)
      if wiring.attachment ∈ attached.map Wiring.attachment then
        finish.1 = .error (.rejected "Failure creating veth" "File exists") ∧
          OnlyRecords host finish.2
      else finish.1 = .ok wiring.attachment.names
  | .detach failures attachment =>
      let finish := (Topology.detach Simulation.answer attachment).outcome (planned failures host)
      if attachment ∈ attached.map Wiring.attachment then finish.1 = .ok ()
      else
        (∃ fault, finish.1 = .error fault ∧ fault.isNotFound = true) ∧ OnlyRecords host finish.2

variable {address? : Option Cidr} {attached : List Wiring} {links : Simulation}
  {attachment : Device.Attachment} {wiring : Wiring} {host : Host Simulation φ}

/-- Requests that do no shared work leave all of it done once. -/
theorem Layout.work_idle (layout : topology.Layout uplink address? attached links)
    {asked : List LinkRequest} (idle : asked.filter isSharedWork = []) :
    (links.requests ++ asked).filter isSharedWork = topology.sharedWork address? := by
  rw [List.filter_append, idle, List.append_nil, layout.work]

/-- Requests that neither do shared work nor change a device leave a layout as it is. -/
theorem Layout.ask_idle (layout : topology.Layout uplink address? attached links)
    {asked : List LinkRequest} (idle : asked.filter isSharedWork = []) :
    topology.Layout uplink address? attached
      (obedient links.table (links.requests ++ asked)) where
  obeys := rfl
  numbered := layout.numbered
  filled := layout.filled
  bare := layout.bare
  work := layout.work_idle idle

/-- Detaching an attached container takes its pair of devices away, and nothing else. -/
private theorem Layout.detach_step (layout : topology.Layout uplink address? attached host.links)
    (distinct : (attached.map Wiring.attachment).Nodup)
    (own : ¬ topology.IsShared attachment.names.host) (offUplink : attachment.names.host ≠ uplink)
    (named : ∀ other ∈ attached, other.attachment ≠ attachment →
      other.attachment.names.host ≠ attachment.names.host)
    (member : attachment ∈ attached.map Wiring.attachment) :
    ∃ log later,
      (Topology.detach Simulation.answer attachment).outcome host =
          (.ok (), { host with links := later, log }) ∧
        topology.Layout uplink address?
          (attached.filter fun wiring => wiring.attachment ≠ attachment) later := by
  obtain ⟨entries, filled⟩ := layout.filled
  obtain ⟨entry, entryMember, rfl, found⟩ :=
    layout.find?_hostEnd own offUplink named filled member
  obtain ⟨log, detached⟩ := comes_detach (φ := φ) layout.numbered found host host.links.requests
    layout.obeys
  refine ⟨log, _, detached, ?_⟩
  constructor
  case obeys => rfl
  case numbered => exact layout.numbered.drop _
  case filled =>
    refine ⟨entries.filter fun other => other.1.attachment ≠ entry.1.attachment, ?_, ?_,
      layout.devices_drop distinct filled entryMember named⟩
    · rw [← filled.attached, List.filter_map]
      rfl
    · exact fun other member => filled.above other (List.mem_of_mem_filter member)
  case bare =>
    intro none
    obtain ⟨used, rfl⟩ := layout.bare none
    cases member
  case work =>
    have apart : ¬ entry.2 ≤ 3 := Nat.not_le_of_lt (filled.above entry entryMember)
    have idle : [LinkRequest.indexOf entry.1.attachment.names.host,
        .delete (hostEnd entry.1.attachment entry.2 2).index].filter isSharedWork = [] := by
      simp [isSharedWork, hostEnd, Device.fresh, apart]
    exact layout.work_idle idle

private theorem Layout.detach_step_missing
    (layout : topology.Layout uplink address? attached host.links)
    (own : ¬ topology.IsShared attachment.names.host) (offUplink : attachment.names.host ≠ uplink)
    (free : ∀ other ∈ attached, other.attachment.names.host ≠ attachment.names.host) :
    ∃ log later,
      (Topology.detach Simulation.answer attachment).outcome host =
          (.error (missing "Failure deleting veth pair" attachment.names.host),
            { host with links := later, log }) ∧
        topology.Layout uplink address? attached later ∧ later.table = host.links.table := by
  have unknown := layout.find?_host offUplink own free
  obtain ⟨log, refused⟩ := comes_detach_missing (φ := φ) unknown host host.links.requests
    layout.obeys
  exact ⟨log, _, refused, layout.ask_idle rfl, rfl⟩

section Attaching

variable {address : Cidr} {node : Files.Node}

/-- A container that is attached cannot be attached again. -/
private theorem Layout.attach_step_taken
    (layout : topology.Layout uplink (some address) attached host.links)
    (offUplink : ¬ topology.IsShared uplink)
    (apart : topology.bridge ≠ topology.vxlan.name)
    (opened : Namespace.nodeAt ⟨wiring.attachment.namespacePath⟩ host.files = .ok node)
    (member : wiring.attachment ∈ attached.map Wiring.attachment) :
    ∃ log later,
      (topology.attach Simulation.answer wiring).outcome host =
          (.error (.rejected "Failure creating veth" "File exists"),
            { host with links := later, log }) ∧
        topology.Layout uplink (some address) attached later ∧ later.table = host.links.table := by
  obtain ⟨other, otherMember, same⟩ := List.mem_map.mp member
  obtain ⟨device, found⟩ := layout.exists_hostEnd otherMember
  rw [same] at found
  obtain ⟨log, refused⟩ := outcome_attach_of_comes opened layout.obeys
    (comes_ensureBridge (layout.find?_bridge offUplink) _)
    (comes_ensureVxlan (layout.find?_vxlan offUplink apart) _) (comes_connect_taken found)
  exact ⟨log, _, refused, layout.ask_idle rfl, rfl⟩

/-- Another container is attached by adding its pair of devices, and nothing else. -/
private theorem Layout.attach_step
    (layout : topology.Layout uplink (some address) attached host.links)
    (offUplink : ¬ topology.IsShared uplink)
    (apart : topology.bridge ≠ topology.vxlan.name)
    (opened : Namespace.nodeAt ⟨wiring.attachment.namespacePath⟩ host.files = .ok node)
    (vacant : Vacant wiring.attachment host.links.table) :
    ∃ log later,
      (topology.attach Simulation.answer wiring).outcome host =
          (.ok wiring.attachment.names, { host with links := later, log }) ∧
        topology.Layout uplink (some address) (attached ++ [wiring]) later := by
  have bridgeFound := layout.find?_bridge offUplink
  have vxlanFound := layout.find?_vxlan offUplink apart
  obtain ⟨log, done⟩ := outcome_attach_of_comes opened layout.obeys
    (comes_ensureBridge bridgeFound _) (comes_ensureVxlan vxlanFound _)
    (comes_connect layout.numbered vacant bridgeFound vxlanFound)
  refine ⟨log, _, done, ?_⟩
  obtain ⟨vxlanMember, -, -⟩ := DeviceTable.of_find? vxlanFound
  have used : 3 ≤ host.links.table.used := layout.numbered.bounded _ vxlanMember
  rw [connected_of_joined layout.numbered vxlanMember rfl]
  constructor
  case obeys => rfl
  case numbered => exact layout.numbered.extend_pair rfl rfl
  case filled =>
    obtain ⟨entries, filled⟩ := layout.filled
    refine ⟨entries ++ [(wiring, host.links.table.used + 1)], ?_, ?_, ?_⟩
    · rw [List.map_append, filled.attached]
      rfl
    · intro entry member
      rcases List.mem_append.mp member with earlier | last
      · exact filled.above entry earlier
      · rw [List.mem_singleton.mp last]
        exact Nat.lt_succ_of_le used
    · change host.links.table.devices ++ _ = _
      rw [filled.devices, List.append_assoc, List.flatMap_append]
      rfl
  case bare => exact fun none => nomatch none
  case work =>
    have raised : ¬ host.links.table.used + 1 ≤ 3 := by omega
    have moved : ¬ host.links.table.used + 1 + 1 ≤ 3 := by omega
    change (host.links.requests ++ _).filter isSharedWork = _
    rw [List.filter_append, layout.work]
    simp [connectRequests, joinRequests, isSharedWork, raised, moved, finishedBridge, Device.fresh]

section First

/-- A table with nothing but the uplink. -/
def bareTable (uplink : String) : DeviceTable :=
  DeviceTable.empty.add uplink .physical

def bridgedTable (topology : Topology) (uplink : String) (address : Cidr) : DeviceTable :=
  (bareTable uplink).extend [topology.finishedBridge 2 address] 2

/-- A table with the uplink and the shared devices, before the overlay device belongs to the
bridge. -/
def overlaidTable (topology : Topology) (uplink : String) (address : Cidr) : DeviceTable :=
  (topology.bridgedTable uplink address).extend [topology.finishedVxlan 3 1] 3

private theorem find?_bareTable {name : String} (other : uplink ≠ name) :
    (bareTable uplink).find? none name = none :=
  DeviceTable.find?_add_of_ne other _ _

private theorem grown_bridgedTable (offUplink : ¬ topology.IsShared uplink) (address : Cidr) :
    topology.Grown (bareTable uplink) (topology.bridgedTable uplink address) := by
  have missing : (bareTable uplink).find? none topology.bridge = none :=
    find?_bareTable fun same => offUplink (.inl same)
  exact (Grown.refl (numbered_empty.add uplink .physical)).extend_single
    ⟨rfl, .inl ⟨rfl, rfl, missing⟩⟩ rfl

private theorem find?_vxlan_bridgedTable (offUplink : ¬ topology.IsShared uplink)
    (apart : topology.bridge ≠ topology.vxlan.name) (address : Cidr) :
    (topology.bridgedTable uplink address).find? none topology.vxlan.name = none := by
  rw [bridgedTable, DeviceTable.find?_extend,
    find?_bareTable fun same => offUplink (.inr same), Option.none_or]
  simp [finishedBridge, Device.fresh, apart]

private theorem grown_overlaidTable (offUplink : ¬ topology.IsShared uplink)
    (apart : topology.bridge ≠ topology.vxlan.name) (address : Cidr) :
    topology.Grown (topology.bridgedTable uplink address)
      (topology.overlaidTable uplink address) := by
  have missing := find?_vxlan_bridgedTable offUplink apart address
  exact (Grown.refl (grown_bridgedTable offUplink address).numbered).extend_single
    ⟨rfl, .inr ⟨rfl, ⟨1, rfl⟩, missing⟩⟩ rfl

private theorem find?_bridge_overlaidTable (offUplink : ¬ topology.IsShared uplink)
    (address : Cidr) :
    (topology.overlaidTable uplink address).find? none topology.bridge =
      some (topology.finishedBridge 2 address) := by
  have bridged : (topology.bridgedTable uplink address).find? none topology.bridge =
      some (topology.finishedBridge 2 address) := by
    rw [bridgedTable, DeviceTable.find?_extend,
      find?_bareTable fun same => offUplink (.inl same), Option.none_or]
    simp [finishedBridge, Device.fresh]
  exact DeviceTable.find?_extend_of_some bridged _ _

private theorem find?_vxlan_overlaidTable (offUplink : ¬ topology.IsShared uplink)
    (apart : topology.bridge ≠ topology.vxlan.name) (address : Cidr) :
    (topology.overlaidTable uplink address).find? none topology.vxlan.name =
      some (topology.finishedVxlan 3 1) := by
  rw [overlaidTable, DeviceTable.find?_extend, find?_vxlan_bridgedTable offUplink apart,
    Option.none_or]
  simp [finishedVxlan, Device.fresh]

end First

private theorem Layout.eq_bareTable (layout : topology.Layout uplink none attached links) :
    links.table = bareTable uplink ∧ attached = [] := by
  obtain ⟨used, rfl⟩ := layout.bare rfl
  obtain ⟨entries, empty, -, devices⟩ := layout.filled
  obtain rfl := List.map_eq_nil_iff.mp empty
  have parts : links.table = ⟨links.table.devices, links.table.used⟩ := rfl
  rw [parts, devices, used]
  exact ⟨rfl, rfl⟩

/-- The first container that is attached comes with the shared devices. -/
private theorem Layout.attach_step_first (layout : topology.Layout uplink none attached host.links)
    (offUplink : ¬ topology.IsShared uplink)
    (apart : topology.bridge ≠ topology.vxlan.name) (carried : wiring.uplink = uplink)
    (opened : Namespace.nodeAt ⟨wiring.attachment.namespacePath⟩ host.files = .ok node)
    (own : topology.OwnNames wiring.attachment)
    (vacant : Vacant wiring.attachment host.links.table) :
    ∃ log later,
      (topology.attach Simulation.answer wiring).outcome host =
          (.ok wiring.attachment.names, { host with links := later, log }) ∧
        topology.Layout uplink (some wiring.bridgeCidr) (attached ++ [wiring]) later := by
  obtain ⟨bare, rfl⟩ := layout.eq_bareTable
  have begun := layout.obeys
  have numbered := layout.numbered
  rw [bare] at begun vacant numbered
  have bridgedGrown := grown_bridgedTable offUplink wiring.bridgeCidr
  have overlaidGrown := grown_overlaidTable offUplink apart wiring.bridgeCidr
  have carrier : (topology.bridgedTable uplink wiring.bridgeCidr).find? none wiring.uplink =
      some (Device.fresh 1 uplink .physical) := by
    rw [carried]
    exact bridgedGrown.find?_of_some (DeviceTable.find?_add_self rfl _)
  obtain ⟨log, done⟩ := outcome_attach_of_comes opened begun
    (comes_ensureBridge_missing numbered
      (find?_bareTable fun same => offUplink (.inl same)) _)
    (comes_ensureVxlan_missing bridgedGrown.numbered
      (find?_vxlan_bridgedTable offUplink apart _) carrier)
    (comes_connect overlaidGrown.numbered
      (overlaidGrown.vacant (bridgedGrown.vacant vacant own) own)
      (find?_bridge_overlaidTable offUplink _) (find?_vxlan_overlaidTable offUplink apart _))
  refine ⟨log, _, done, ?_⟩
  constructor
  case obeys => rfl
  case numbered =>
    refine Numbered.extend_pair (overlaidGrown.numbered.adjust ?_ _) rfl rfl
    exact fun _ => rfl
  case filled =>
    refine ⟨[(wiring, 4)], rfl, ?_, rfl⟩
    intro entry member
    rw [List.mem_singleton.mp member]
    exact Nat.lt_succ_self 3
  case bare => exact fun none => nomatch none
  case work =>
    change (host.links.requests ++ _).filter isSharedWork = _
    rw [List.filter_append, layout.work]
    rfl

end Attaching

/-- The names of an attachment's devices are vacant if it is not attached and neither an attached
container, a shared device nor the uplink has one of them. -/
private theorem Layout.vacant (layout : topology.Layout uplink address? attached links)
    (own : topology.OwnNames attachment)
    (offUplink : attachment.names.host ≠ uplink ∧ attachment.names.transient ≠ uplink)
    (named : ∀ other ∈ attached, other.attachment.names.host ≠ attachment.names.host)
    (placed : ∀ other ∈ attached, place other.attachment ≠ place attachment) :
    Vacant attachment links.table where
  host := layout.find?_host offUplink.1 own.1 named
  transient := layout.find?_host offUplink.2 own.2 fun _ _ => Device.host_ne_transient _ _
  interface := layout.find?_inside placed

private theorem Layout.planned_nil (layout : topology.Layout uplink address? attached host.links) :
    planned [] host = host := by
  have none : host.links.failures = [] := congrArg Simulation.failures layout.obeys
  rw [planned, ← none]

/-- If a layout's table is kept, then no more than its requests change. -/
theorem Layout.onlyRecords {log : List LogEntry} {later : Simulation}
    (before : topology.Layout uplink address? attached host.links)
    (after : topology.Layout uplink address? attached later)
    (kept : later.table = host.links.table) :
    OnlyRecords host { host with links := later, log } := by
  refine ⟨later.requests, log, ?_⟩
  have same : later = { host.links with requests := later.requests } := by
    rw [after.obeys, before.obeys, kept]
    rfl
  exact congrArg (fun links => ({ host with links, log } : Host Simulation φ)) same

section Call

variable {call : Call}

private theorem attach_layout_step
    (layout : topology.Layout uplink address? attached host.links)
    (uplinkOwn : ¬ topology.IsShared uplink) (apart : topology.bridge ≠ topology.vxlan.name)
    (fits : (Call.attach [] wiring).Fits topology uplink host.files attached) :
    (Call.attach [] wiring).Answered topology attached host ∧
      ∃ log later, (Call.attach [] wiring).after topology host =
          { host with links := later, log } ∧
        topology.Layout uplink ((Call.attach [] wiring).addressAfter address?)
          ((Call.attach [] wiring).attachedAfter attached) later := by
  obtain ⟨carried, node, opened⟩ := fits.reached
  have places := fits.placed
  simp only [Call.Answered, Call.after, Call.attachedAfter, layout.planned_nil] at places ⊢
  by_cases member : wiring.attachment ∈ attached.map Wiring.attachment
  case pos =>
    cases address? with
    | none =>
        obtain ⟨-, rfl⟩ := layout.bare rfl
        cases member
    | some address =>
        obtain ⟨log, later, refused, laterLayout, kept⟩ :=
          layout.attach_step_taken uplinkOwn apart opened member
        rw [if_pos member, if_pos member, refused]
        exact ⟨⟨rfl, layout.onlyRecords laterLayout kept⟩, log, later, rfl, laterLayout⟩
  case neg =>
    have other : ∀ wired ∈ attached, wired.attachment ≠ wiring.attachment :=
      fun wired wiredMember same => member (same ▸ List.mem_map_of_mem wiredMember)
    have placed : ∀ wired ∈ attached, place wired.attachment ≠ place wiring.attachment := by
      rw [if_neg member, List.map_append, List.nodup_append] at places
      intro wired wiredMember
      exact places.2.2 _ (List.mem_map_of_mem wiredMember) _ (List.mem_singleton_self _)
    have vacant : Vacant wiring.attachment host.links.table :=
      layout.vacant fits.own fits.offUplink
        (fun wired wiredMember => fits.named wired wiredMember (other wired wiredMember)) placed
    have done : ∃ log later,
        (topology.attach Simulation.answer wiring).outcome host =
            (.ok wiring.attachment.names, { host with links := later, log }) ∧
          topology.Layout uplink ((Call.attach [] wiring).addressAfter address?)
            (attached ++ [wiring]) later := by
      cases address? with
      | none => exact layout.attach_step_first uplinkOwn apart carried opened fits.own vacant
      | some address => exact layout.attach_step uplinkOwn apart opened vacant
    obtain ⟨log, later, wired, laterLayout⟩ := done
    rw [if_neg member, if_neg member, wired]
    exact ⟨rfl, log, later, rfl, laterLayout⟩

private theorem detach_layout_step
    (layout : topology.Layout uplink address? attached host.links)
    (distinct : (attached.map Wiring.attachment).Nodup)
    (fits : (Call.detach [] attachment).Fits topology uplink host.files attached) :
    (Call.detach [] attachment).Answered topology attached host ∧
      ∃ log later, (Call.detach [] attachment).after topology host =
          { host with links := later, log } ∧
        topology.Layout uplink address? ((Call.detach [] attachment).attachedAfter attached)
          later := by
  have own : ¬ topology.IsShared attachment.names.host := fits.own.1
  have offUplink : attachment.names.host ≠ uplink := fits.offUplink.1
  have named : ∀ wired ∈ attached, wired.attachment ≠ attachment →
      wired.attachment.names.host ≠ attachment.names.host := fits.named
  simp only [Call.Answered, Call.after, Call.attachedAfter, layout.planned_nil]
  by_cases member : attachment ∈ attached.map Wiring.attachment
  case pos =>
    obtain ⟨log, later, done, laterLayout⟩ :=
      layout.detach_step distinct own offUplink named member
    rw [if_pos member, done]
    exact ⟨rfl, log, later, rfl, laterLayout⟩
  case neg =>
    have other : ∀ wired ∈ attached, wired.attachment ≠ attachment :=
      fun wired wiredMember same => member (same ▸ List.mem_map_of_mem wiredMember)
    have kept : (attached.filter fun wired => wired.attachment ≠ attachment) = attached :=
      List.filter_eq_self.mpr fun wired wiredMember => decide_eq_true (other wired wiredMember)
    obtain ⟨log, later, refused, laterLayout, same⟩ :=
      layout.detach_step_missing own offUplink
        fun wired wiredMember => named wired wiredMember (other wired wiredMember)
    rw [if_neg member, refused, kept]
    exact ⟨⟨⟨_, rfl, isNotFound_missing _ _⟩, layout.onlyRecords laterLayout same⟩, log, later, rfl,
      laterLayout⟩

/-- A call comes to what it should, and leaves a layout with the containers attached then. -/
theorem Call.layout_step (layout : topology.Layout uplink address? attached host.links)
    (distinct : (attached.map Wiring.attachment).Nodup)
    (uplinkOwn : ¬ topology.IsShared uplink) (apart : topology.bridge ≠ topology.vxlan.name)
    (fits : call.Fits topology uplink host.files attached) :
    call.Answered topology attached host ∧
      ∃ log later, call.after topology host = { host with links := later, log } ∧
        topology.Layout uplink (call.addressAfter address?) (call.attachedAfter attached)
          later := by
  cases call with
  | attach failures wiring =>
      obtain rfl : failures = [] := fits.unplanned
      exact attach_layout_step layout uplinkOwn apart fits
  | detach failures attachment =>
      obtain rfl : failures = [] := fits.unplanned
      exact detach_layout_step layout distinct fits

end Call

end Steps

section Runs

variable {files : Files.Tree} {calls : List Call} {call : Call}

/-- Whether a history is one in which nothing fails and no device can be taken for another one: the
names of a container's devices belong to no other container, neither are they those of the uplink or
a shared device, and containers that are attached at the same time have places of their own. -/
structure Undisturbed (topology : Topology) (uplink : String) (files : Files.Tree)
    (calls : List Call) : Prop where
  unplanned : ∀ call ∈ calls, call.plan = []
  own : ∀ call ∈ calls, topology.OwnNames call.attachment
  offUplink : ∀ call ∈ calls,
    call.attachment.names.host ≠ uplink ∧ call.attachment.names.transient ≠ uplink
  named : ∀ first ∈ calls, ∀ second ∈ calls, first.attachment ≠ second.attachment →
    first.attachment.names.host ≠ second.attachment.names.host
  reached : ∀ call ∈ calls, call.Reaches uplink files
  placed : ∀ earlier, earlier <+: calls →
    ((attachedBehind earlier).map fun wiring => place wiring.attachment).Nodup

private theorem attachedBehind_concat (calls : List Call) (call : Call) :
    attachedBehind (calls ++ [call]) = call.attachedAfter (attachedBehind calls) :=
  List.foldl_concat ..

private theorem addressBehind_concat (calls : List Call) (call : Call) :
    addressBehind (calls ++ [call]) = call.addressAfter (addressBehind calls) :=
  List.foldl_concat ..

/-- A container that is attached behind a history was attached during it. -/
theorem exists_attach_of_mem {wiring : Wiring} (member : wiring ∈ attachedBehind calls) :
    ∃ failures, Call.attach failures wiring ∈ calls := by
  induction calls using List.reverseRecOn with
  | nil => cases member
  | append_singleton calls last ih =>
      have earlier (before : wiring ∈ attachedBehind calls) :
          ∃ failures, Call.attach failures wiring ∈ calls ++ [last] := by
        obtain ⟨failures, among⟩ := ih before
        exact ⟨failures, List.mem_append_left _ among⟩
      rw [attachedBehind_concat] at member
      cases last with
      | attach failures other =>
          rw [Call.attachedAfter] at member
          split at member
          case isTrue => exact earlier member
          case isFalse =>
            rcases List.mem_append.mp member with before | newly
            · exact earlier before
            · obtain rfl := List.mem_singleton.mp newly
              exact ⟨failures, List.mem_append_right _ (List.mem_singleton_self _)⟩
      | detach failures attachment => exact earlier (List.mem_of_mem_filter member)

private theorem Undisturbed.of_concat
    (undisturbed : topology.Undisturbed uplink files (calls ++ [call])) :
    topology.Undisturbed uplink files calls where
  unplanned other member := undisturbed.unplanned other (List.mem_append_left _ member)
  own other member := undisturbed.own other (List.mem_append_left _ member)
  offUplink other member := undisturbed.offUplink other (List.mem_append_left _ member)
  named first firstMember second secondMember :=
    undisturbed.named first (List.mem_append_left _ firstMember) second
      (List.mem_append_left _ secondMember)
  reached other member := undisturbed.reached other (List.mem_append_left _ member)
  placed earlier front := undisturbed.placed earlier (front.trans (List.prefix_append _ _))

/-- Containers that are attached at the same time are different ones. -/
theorem Undisturbed.distinct (undisturbed : topology.Undisturbed uplink files calls) :
    ((attachedBehind calls).map Wiring.attachment).Nodup := by
  have places : (((attachedBehind calls).map Wiring.attachment).map place).Nodup := by
    rw [List.map_map]
    exact undisturbed.placed calls List.prefix_rfl
  exact places.of_map _

private theorem Undisturbed.fits
    (undisturbed : topology.Undisturbed uplink files (calls ++ [call])) :
    call.Fits topology uplink files (attachedBehind calls) := by
  have last : call ∈ calls ++ [call] := List.mem_append_right _ (List.mem_singleton_self _)
  constructor
  case unplanned => exact undisturbed.unplanned call last
  case own => exact undisturbed.own call last
  case offUplink => exact undisturbed.offUplink call last
  case named =>
    intro other member different
    obtain ⟨failures, among⟩ := exists_attach_of_mem member
    exact undisturbed.named _ (List.mem_append_left _ among) call last different
  case reached => exact undisturbed.reached call last
  case placed =>
    rw [← attachedBehind_concat]
    exact undisturbed.placed _ List.prefix_rfl

/-- Before anything is attached there is nothing but the uplink. -/
private theorem layout_withUplink (topology : Topology) (uplink : String) :
    topology.Layout uplink none [] (Simulation.withUplink (some uplink)) where
  obeys := rfl
  numbered := numbered_empty.add uplink .physical
  filled := ⟨[], rfl, List.forall_mem_nil _, rfl⟩
  bare _ := ⟨rfl, rfl⟩
  work := rfl

/-- Behind every history that is undisturbed there are exactly the devices of the containers that
are attached then, beside the shared ones, and no file has changed. -/
theorem Undisturbed.layout (undisturbed : topology.Undisturbed uplink files calls)
    {start : Host Simulation φ} (fresh : start.links = Simulation.withUplink (some uplink))
    (apart : topology.bridge ≠ topology.vxlan.name) (uplinkOwn : ¬ topology.IsShared uplink)
    (sameFiles : start.files = files) :
    topology.Layout uplink (addressBehind calls) (attachedBehind calls)
        (topology.after start calls).links ∧
      (topology.after start calls).files = files := by
  -- From the end, since a call meets the containers that all the calls before it left attached.
  induction calls using List.reverseRecOn with
  | nil =>
      refine ⟨?_, sameFiles⟩
      change topology.Layout uplink none [] start.links
      rw [fresh]
      exact layout_withUplink topology uplink
  | append_singleton calls last ih =>
      obtain ⟨layout, kept⟩ := ih undisturbed.of_concat
      have fits := undisturbed.fits
      rw [← kept] at fits
      obtain ⟨-, log, later, done, laterLayout⟩ :=
        Call.layout_step layout undisturbed.of_concat.distinct uplinkOwn apart fits
      have run : topology.after start (calls ++ [last]) =
          last.after topology (topology.after start calls) :=
        List.foldl_concat ..
      rw [run, done, attachedBehind_concat, addressBehind_concat]
      exact ⟨laterLayout, kept⟩

/-- Over every history that is undisturbed each call comes to what it should: a container is
attached unless it is attached already, and detached if it is attached. Behind the call the table
holds exactly the uplink, the shared devices from the first attachment on, and one pair of devices
for each container that is attached, and the shared devices were worked on once. -/
theorem attached_containers_exact (topology : Topology) (uplink : String)
    (start : Host Simulation φ) (fresh : start.links = Simulation.withUplink (some uplink))
    (apart : topology.bridge ≠ topology.vxlan.name) (uplinkOwn : ¬ topology.IsShared uplink)
    (calls : List Call) (call : Call)
    (undisturbed : topology.Undisturbed uplink start.files (calls ++ [call])) :
    call.Answered topology (attachedBehind calls) (topology.after start calls) ∧
      topology.Layout uplink (addressBehind (calls ++ [call])) (attachedBehind (calls ++ [call]))
        (topology.after start (calls ++ [call])).links := by
  obtain ⟨layout, kept⟩ := undisturbed.of_concat.layout fresh apart uplinkOwn rfl
  have fits := undisturbed.fits
  rw [← kept] at fits
  obtain ⟨answered, -⟩ :=
    Call.layout_step layout undisturbed.of_concat.distinct uplinkOwn apart fits
  exact ⟨answered, (undisturbed.layout fresh apart uplinkOwn rfl).1⟩

/-- A second interface of the container of the first wiring. -/
def secondWiring : Wiring :=
  { firstWiring with attachment := ⟨"ns", "eth1", "c1"⟩ }

/-- Two interfaces are attached, one is detached, and the other is attached once more. -/
def mixedCalls : List Call :=
  [.attach [] firstWiring, .attach [] secondWiring, .detach [] firstWiring.attachment]

private theorem undisturbed_mixedCalls :
    usualTopology.Undisturbed "eth0" bareHost.files (mixedCalls ++ [.attach [] secondWiring]) := by
  constructor
  case unplanned => decide
  case own =>
    simp only [OwnNames, IsShared]
    decide +kernel
  case offUplink => decide +kernel
  case named => decide +kernel
  case reached =>
    simp only [mixedCalls, List.cons_append, List.nil_append, List.forall_mem_cons, Call.Reaches]
    exact ⟨⟨rfl, _, rfl⟩, ⟨rfl, _, rfl⟩, trivial, ⟨rfl, _, rfl⟩, List.forall_mem_nil _⟩
  case placed =>
    intro earlier front
    rw [← List.mem_inits] at front
    revert earlier
    decide +kernel

/-- The interface that is still attached cannot be attached again, and its devices are the only
ones of a container. -/
theorem attached_containers_exact_mixedCalls :
    ((usualTopology.attach Simulation.answer secondWiring).outcome
        (planned [] (usualTopology.after bareHost mixedCalls))).1 =
      .error (.rejected "Failure creating veth" "File exists") ∧
    ∃ entries, usualTopology.Filled "eth0" (some firstWiring.bridgeCidr) [secondWiring]
      (usualTopology.after bareHost (mixedCalls ++ [.attach [] secondWiring])).links.table
        entries := by
  have uplinkOwn : ¬ usualTopology.IsShared "eth0" := by
    simp only [IsShared]
    decide
  have apart : usualTopology.bridge ≠ usualTopology.vxlan.name := by decide
  obtain ⟨answered, layout⟩ := attached_containers_exact usualTopology "eth0" bareHost rfl apart
    uplinkOwn mixedCalls (.attach [] secondWiring) undisturbed_mixedCalls
  have still : attachedBehind mixedCalls = [secondWiring] := by decide +kernel
  have member : secondWiring.attachment ∈ (attachedBehind mixedCalls).map Wiring.attachment := by
    rw [still]
    exact List.mem_singleton_self _
  simp only [Call.Answered, if_pos member] at answered
  have last : attachedBehind (mixedCalls ++ [.attach [] secondWiring]) = [secondWiring] := by
    decide +kernel
  have address : addressBehind (mixedCalls ++ [.attach [] secondWiring]) =
      some firstWiring.bridgeCidr := rfl
  rw [last, address] at layout
  exact ⟨answered.1, layout.filled⟩

end Runs

end OverlayNet.Topology
