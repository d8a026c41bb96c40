import Mathlib
import OverlayNet.Proofs.Link.DeviceLookup
import OverlayNet.Topology

set_option autoImplicit false

/-! # Sound tables of devices

What attaching and detaching containers keep true of a table of devices, whichever of their requests
are refused. -/

namespace OverlayNet.Topology

def IsShared (topology : Topology) (name : String) : Prop :=
  name = topology.bridge ∨ name = topology.vxlan.name

/-- Whether every number that a device has was used, and none twice. -/
structure Numbered (table : DeviceTable) : Prop where
  bounded : ∀ device ∈ table.devices, device.index ≤ table.used
  distinct : ∀ first ∈ table.devices, ∀ second ∈ table.devices,
    first.index = second.index → first = second

/-- Whether a table of devices is as the work on a topology leaves it. -/
structure Sound (topology : Topology) (table : DeviceTable) : Prop extends Numbered table where
  /-- What a device is joined to is not a device of another kind. -/
  joined : ∀ device ∈ table.devices, ∀ peer, device.kind.peer? = some peer →
    peer ≤ table.used ∧ ∀ other ∈ table.devices, other.index = peer → other.kind.peer? ≠ none
  shared : ∀ device ∈ table.devices, device.holder = none → topology.IsShared device.name →
    device.kind.peer? = none
  /-- A device in a namespace is up. -/
  inside : ∀ device ∈ table.devices, device.holder ≠ none → device.up = true

variable {topology : Topology} {table : DeviceTable}

theorem mem_add {name : String} {kind : DeviceKind} {device : Device} :
    device ∈ (table.add name kind).devices ↔
      device ∈ table.devices ∨ device = Device.fresh (table.used + 1) name kind := by
  simp [DeviceTable.add]

theorem numbered_empty : Numbered DeviceTable.empty := by
  constructor <;> simp [DeviceTable.empty]

theorem Numbered.add (numbered : Numbered table) (name : String) (kind : DeviceKind) :
    Numbered (table.add name kind) := by
  have old : ∀ device ∈ table.devices, device.index ≠ table.used + 1 := by
    intro device member
    have bound := numbered.bounded device member
    omega
  constructor
  case bounded =>
    intro device member
    rcases mem_add.mp member with earlier | rfl
    · exact (numbered.bounded device earlier).trans (Nat.le_succ _)
    · exact Nat.le_refl _
  case distinct =>
    intro first firstMember second secondMember same
    rcases mem_add.mp firstMember with firstEarlier | rfl
    · rcases mem_add.mp secondMember with secondEarlier | rfl
      · exact numbered.distinct first firstEarlier second secondEarlier same
      · exact absurd same (old first firstEarlier)
    · rcases mem_add.mp secondMember with secondEarlier | rfl
      · exact absurd same.symm (old second secondEarlier)
      · rfl

theorem Numbered.adjust (numbered : Numbered table) {change : Device → Device}
    (kept : ∀ device, (change device).index = device.index) (index : Nat) :
    Numbered (table.adjust index change) := by
  have earlier : ∀ device ∈ (table.adjust index change).devices, ∃ before ∈ table.devices,
      (if before.index = index then change before else before) = device :=
    fun device member => List.mem_map.mp member
  have sameIndex : ∀ before : Device,
      (if before.index = index then change before else before).index = before.index := by
    intro before
    split
    · exact kept before
    · rfl
  constructor
  case bounded =>
    intro device member
    obtain ⟨before, beforeMember, rfl⟩ := earlier device member
    rw [sameIndex]
    exact numbered.bounded before beforeMember
  case distinct =>
    intro device member other otherMember same
    obtain ⟨before, beforeMember, rfl⟩ := earlier device member
    obtain ⟨otherBefore, otherBeforeMember, rfl⟩ := earlier other otherMember
    rw [sameIndex, sameIndex] at same
    rw [numbered.distinct before beforeMember otherBefore otherBeforeMember same]

theorem Numbered.drop (numbered : Numbered table) (indices : List Nat) :
    Numbered (table.drop indices) :=
  ⟨fun device member => numbered.bounded device (List.mem_of_mem_filter member),
    fun device member other otherMember => numbered.distinct device
      (List.mem_of_mem_filter member) other (List.mem_of_mem_filter otherMember)⟩

theorem Sound.add (sound : topology.Sound table) (name : String) {kind : DeviceKind}
    (single : kind.peer? = none) : topology.Sound (table.add name kind) := by
  constructor
  case toNumbered => exact sound.toNumbered.add name kind
  case joined =>
    intro device member peer isPeer
    rcases mem_add.mp member with earlier | rfl
    · obtain ⟨within, pairs⟩ := sound.joined device earlier peer isPeer
      refine ⟨within.trans (Nat.le_succ _), ?_⟩
      intro other otherMember isOther
      rcases mem_add.mp otherMember with otherEarlier | rfl
      · exact pairs other otherEarlier isOther
      · have index : table.used + 1 = peer := isOther
        omega
    · have none : kind.peer? = some peer := isPeer
      simp [single] at none
  case shared =>
    intro device member onHost isShared
    rcases mem_add.mp member with earlier | rfl
    · exact sound.shared device earlier onHost isShared
    · exact single
  case inside =>
    intro device member moved
    rcases mem_add.mp member with earlier | rfl
    · exact sound.inside device earlier moved
    · exact absurd rfl moved

/-- The table with two devices that are joined to each other. -/
def withPair (table : DeviceTable) (name peer : String) : DeviceTable :=
  (table.add name (.pair (table.used + 2))).add peer (.pair (table.used + 1))

theorem Sound.withPair (sound : topology.Sound table) {name peer : String}
    (nameOwn : ¬ topology.IsShared name) (peerOwn : ¬ topology.IsShared peer) :
    topology.Sound (withPair table name peer) := by
  have cases : ∀ device ∈ (Topology.withPair table name peer).devices,
      device ∈ table.devices ∨
        device = Device.fresh (table.used + 1) name (.pair (table.used + 2)) ∨
          device = Device.fresh (table.used + 2) peer (.pair (table.used + 1)) := by
    intro device member
    rcases mem_add.mp member with first | second
    · rcases mem_add.mp first with earlier | first
      · exact .inl earlier
      · exact .inr (.inl first)
    · exact .inr (.inr second)
  have joinedOfNew : ∀ other ∈ (Topology.withPair table name peer).devices,
      table.used < other.index → other.kind.peer? ≠ none := by
    intro other member new
    rcases cases other member with earlier | rfl | rfl
    · exact absurd (sound.bounded other earlier) (Nat.not_le_of_lt new)
    · exact Option.some_ne_none _
    · exact Option.some_ne_none _
  constructor
  case toNumbered => exact (sound.toNumbered.add name _).add peer _
  case joined =>
    intro device member peerIndex isPeer
    have used : (Topology.withPair table name peer).used = table.used + 2 := rfl
    rw [used]
    rcases cases device member with earlier | rfl | rfl
    · obtain ⟨within, pairs⟩ := sound.joined device earlier peerIndex isPeer
      refine ⟨by omega, ?_⟩
      intro other otherMember isOther
      rcases cases other otherMember with otherEarlier | rfl | rfl
      · exact pairs other otherEarlier isOther
      · exact Option.some_ne_none _
      · exact Option.some_ne_none _
    · cases isPeer
      exact ⟨Nat.le_refl _, fun other otherMember isOther =>
        joinedOfNew other otherMember (by omega)⟩
    · cases isPeer
      exact ⟨Nat.le_succ _, fun other otherMember isOther =>
        joinedOfNew other otherMember (by omega)⟩
  case shared =>
    intro device member onHost isShared
    rcases cases device member with earlier | rfl | rfl
    · exact sound.shared device earlier onHost isShared
    · exact absurd isShared nameOwn
    · exact absurd isShared peerOwn
  case inside =>
    intro device member moved
    rcases cases device member with earlier | rfl | rfl
    · exact sound.inside device earlier moved
    · exact absurd rfl moved
    · exact absurd rfl moved

/-- A change of one device that keeps its number and kind, does not give it the name of a shared
device, and brings it up if it puts it into a namespace. -/
theorem Sound.adjust (sound : topology.Sound table) {index : Nat} {change : Device → Device}
    (numbered : ∀ device, (change device).index = device.index)
    (kinded : ∀ device, (change device).kind = device.kind)
    (shared : ∀ device ∈ table.devices, (change device).holder = none →
      topology.IsShared (change device).name → device.kind.peer? = none)
    (inside : ∀ device ∈ table.devices, (change device).holder ≠ none →
      (change device).up = true) :
    topology.Sound (table.adjust index change) := by
  have cases : ∀ device ∈ (table.adjust index change).devices, ∃ earlier ∈ table.devices,
      (if earlier.index = index then change earlier else earlier) = device :=
    fun device member => List.mem_map.mp member
  have sameIndex : ∀ earlier : Device,
      (if earlier.index = index then change earlier else earlier).index = earlier.index := by
    intro earlier
    split
    · exact numbered earlier
    · rfl
  have sameKind : ∀ earlier : Device,
      (if earlier.index = index then change earlier else earlier).kind = earlier.kind := by
    intro earlier
    split
    · exact kinded earlier
    · rfl
  constructor
  case toNumbered => exact sound.toNumbered.adjust numbered index
  case joined =>
    intro device member peer isPeer
    obtain ⟨earlier, earlierMember, rfl⟩ := cases device member
    rw [sameKind] at isPeer
    obtain ⟨within, pairs⟩ := sound.joined earlier earlierMember peer isPeer
    refine ⟨within, ?_⟩
    intro other otherMember isOther
    obtain ⟨otherEarlier, otherOld, rfl⟩ := cases other otherMember
    rw [sameIndex] at isOther
    rw [sameKind]
    exact pairs otherEarlier otherOld isOther
  case shared =>
    intro device member onHost isShared
    obtain ⟨earlier, earlierMember, rfl⟩ := cases device member
    rw [sameKind]
    split at onHost
    case isTrue meant =>
      rw [if_pos meant] at isShared
      exact shared earlier earlierMember onHost isShared
    case isFalse other =>
      rw [if_neg other] at isShared
      exact sound.shared earlier earlierMember onHost isShared
  case inside =>
    intro device member moved
    obtain ⟨earlier, earlierMember, rfl⟩ := cases device member
    split at moved
    case isTrue meant =>
      rw [if_pos meant]
      exact inside earlier earlierMember moved
    case isFalse other =>
      rw [if_neg other]
      exact sound.inside earlier earlierMember moved

/-- Whether a change of a device leaves its number, name, kind and holder alone and does not bring
it down. -/
structure Tame (change : Device → Device) : Prop where
  index : ∀ device, (change device).index = device.index
  kind : ∀ device, (change device).kind = device.kind
  holder : ∀ device, (change device).holder = device.holder
  name : ∀ device, (change device).name = device.name
  up : ∀ device, device.up = true → (change device).up = true

theorem Sound.adjust_of_tame (sound : topology.Sound table) {change : Device → Device}
    (tame : Tame change) (index : Nat) : topology.Sound (table.adjust index change) := by
  apply sound.adjust tame.index tame.kind
  · intro device member onHost isShared
    rw [tame.holder] at onHost
    rw [tame.name] at isShared
    exact sound.shared device member onHost isShared
  · intro device member moved
    rw [tame.holder] at moved
    exact tame.up device (sound.inside device member moved)

theorem Sound.moveInto (sound : topology.Sound table) (index : Nat) (target : Path)
    (name : String) :
    topology.Sound
      (table.adjust index fun device =>
        { device with holder := some target, name, up := true }) := by
  apply sound.adjust
  · exact fun _ => rfl
  · exact fun _ => rfl
  · intro device member onHost
    exact absurd onHost (Option.some_ne_none target)
  · exact fun _ _ _ => rfl

theorem Sound.drop (sound : topology.Sound table) (indices : List Nat) :
    topology.Sound (table.drop indices) := by
  have earlier : ∀ device ∈ (table.drop indices).devices, device ∈ table.devices :=
    fun device member => List.mem_of_mem_filter member
  constructor
  case toNumbered => exact sound.toNumbered.drop indices
  case joined =>
    intro device member peer isPeer
    obtain ⟨within, pairs⟩ := sound.joined device (earlier device member) peer isPeer
    exact ⟨within, fun other otherMember => pairs other (earlier other otherMember)⟩
  case shared => exact fun device member => sound.shared device (earlier device member)
  case inside => exact fun device member => sound.inside device (earlier device member)

theorem tame_up : Tame fun device => { device with up := true } :=
  ⟨fun _ => rfl, fun _ => rfl, fun _ => rfl, fun _ => rfl, fun _ _ => rfl⟩

theorem tame_master (master : Nat) : Tame fun device => { device with master := some master } :=
  ⟨fun _ => rfl, fun _ => rfl, fun _ => rfl, fun _ => rfl, fun _ up => up⟩

theorem tame_address (cidr : Cidr) :
    Tame fun device => { device with addresses := device.addresses ++ [cidr] } :=
  ⟨fun _ => rfl, fun _ => rfl, fun _ => rfl, fun _ => rfl, fun _ up => up⟩

theorem tame_configuration (cidr : Cidr) (gateway : Ipv4) :
    Tame fun device =>
      { device with addresses := device.addresses ++ [cidr], gateway := some gateway } :=
  ⟨fun _ => rfl, fun _ => rfl, fun _ => rfl, fun _ => rfl, fun _ up => up⟩

section Found

variable {holder otherHolder : Option Path} {name otherName : String} {device : Device}

theorem find?_adjust_self (found : table.find? holder name = some device)
    {change : Device → Device} (tame : Tame change) :
    (table.adjust device.index change).find? holder name = some (change device) := by
  rw [DeviceTable.find?_adjust tame.holder tame.name, found, Option.map_some, if_pos rfl]

/-- A change of the device that one lookup finds is not seen by another lookup. -/
theorem find?_adjust_other (numbered : Numbered table)
    (found : table.find? holder name = some device)
    (different : otherHolder.isNone ≠ holder.isNone ∨ otherName ≠ name) {change : Device → Device}
    (tame : Tame change) :
    (table.adjust device.index change).find? otherHolder otherName =
      table.find? otherHolder otherName := by
  rw [DeviceTable.find?_adjust tame.holder tame.name]
  cases otherFound : table.find? otherHolder otherName with
  | none => rfl
  | some other =>
      obtain ⟨member, isHolder, isName⟩ := DeviceTable.of_find? found
      obtain ⟨otherMember, isOtherHolder, isOtherName⟩ := DeviceTable.of_find? otherFound
      have apart : other.index ≠ device.index := by
        intro same
        obtain rfl := numbered.distinct other otherMember device member same
        rcases different with holders | names
        · exact holders ((Device.isNone_of_isHeldBy isOtherHolder).trans
            (Device.isNone_of_isHeldBy isHolder).symm)
        · exact names (isOtherName.symm.trans isName)
      rw [Option.map_some, if_neg apart]

theorem device?_of_find? (numbered : Numbered table)
    (found : table.find? holder name = some device) :
    table.device? device.index = some device := by
  obtain ⟨member, -, -⟩ := DeviceTable.of_find? found
  cases looked : table.device? device.index with
  | none =>
      rw [DeviceTable.device?, List.find?_eq_none] at looked
      simpa using looked device member
  | some other =>
      have same : other.index = device.index := by simpa using List.find?_some looked
      rw [numbered.distinct other (List.mem_of_find?_eq_some looked) device member same]

end Found

end OverlayNet.Topology
