import Mathlib
import OverlayNet.Proofs.Topology.FaultyLinks
import OverlayNet.Proofs.Topology.Soundness

set_option autoImplicit false

/-! # Attaching containers on faulty links

What each part of an attachment leaves behind, whichever of its requests is refused. -/

namespace OverlayNet.Topology

variable {φ : Type} {topology : Topology} {table : DeviceTable}

/-- Whether a table shows a device under one name on the host, and under another name what an
earlier table does. -/
structure Shows (topology : Topology) (name other : String) (device : Device)
    (before after : DeviceTable) : Prop where
  sound : topology.Sound after
  found : after.find? none name = some device
  beside : after.find? none other = before.find? none other

theorem Shows.of_add (sound : topology.Sound table) {name other : String}
    (missing : table.find? none name = none) (different : name ≠ other) {kind : DeviceKind}
    (single : kind.peer? = none) :
    topology.Shows name other (Device.fresh (table.used + 1) name kind) table
      (table.add name kind) := by
  constructor
  case sound => exact sound.add name single
  case found => exact DeviceTable.find?_add_self missing kind
  case beside => exact DeviceTable.find?_add_of_ne different kind none

theorem Shows.adjust {name other : String} {device : Device} {before after : DeviceTable}
    (shows : topology.Shows name other device before after) (different : name ≠ other)
    {change : Device → Device} (tame : Tame change) :
    topology.Shows name other (change device) before (after.adjust device.index change) := by
  constructor
  case sound => exact shows.sound.adjust_of_tame tame device.index
  case found => exact find?_adjust_self shows.found tame
  case beside =>
    rw [find?_adjust_other shows.sound.toNumbered shows.found (.inr different.symm) tame,
      shows.beside]

/-- Whether a bridge is up and has an address. -/
def BridgeFinished (address : Cidr) (bridge : Device) : Prop :=
  bridge.up = true ∧ address ∈ bridge.addresses

/-- A bridge that was there is left alone, and another one is finished. -/
structure BridgeEnsured (topology : Topology) (address : Cidr) (before after : DeviceTable) :
    Prop where
  sound : topology.Sound after
  vxlan : after.find? none topology.vxlan.name = before.find? none topology.vxlan.name
  bridge : ∃ bridge, after.find? none topology.bridge = some bridge ∧
    (before.find? none topology.bridge = some bridge ∨
      before.find? none topology.bridge = none ∧ BridgeFinished address bridge)

/-- The bridge is as it was, or it was missing and is there unfinished. -/
structure BridgeAbandoned (topology : Topology) (address : Cidr) (before after : DeviceTable) :
    Prop where
  sound : topology.Sound after
  vxlan : after.find? none topology.vxlan.name = before.find? none topology.vxlan.name
  bridge : after.find? none topology.bridge = before.find? none topology.bridge ∨
    before.find? none topology.bridge = none ∧
      ∃ bridge, after.find? none topology.bridge = some bridge ∧ ¬ BridgeFinished address bridge

theorem wires_ensureBridge (sound : topology.Sound table)
    (apart : topology.bridge ≠ topology.vxlan.name) (address : Cidr) :
    Wires (topology.ensureBridge Simulation.answer address : Action Simulation φ Unit)
      (fun _ => topology.BridgeEnsured address table) (topology.BridgeAbandoned address table)
      table := by
  have unchanged : topology.BridgeAbandoned address table table := ⟨sound, rfl, .inl rfl⟩
  unfold ensureBridge
  apply wires_bind
  apply wires_indexOf unchanged
  cases missing : table.find? none topology.bridge with
  | some bridge => exact wires_pure ⟨sound, rfl, bridge, missing, .inl missing⟩
  | none =>
      let fresh := Device.fresh (table.used + 1) topology.bridge .bridge
      have created : topology.Shows topology.bridge topology.vxlan.name fresh table
          (table.add topology.bridge .bridge) :=
        .of_add sound missing apart rfl
      have enabled := created.adjust apart tame_up
      have createdLeft : topology.BridgeAbandoned address table
          (table.add topology.bridge .bridge) :=
        ⟨created.sound, created.beside, .inr ⟨missing, fresh, created.found,
          fun finished => nomatch finished.1⟩⟩
      have enabledLeft : topology.BridgeAbandoned address table
          ((table.add topology.bridge .bridge).adjust fresh.index
            fun device => { device with up := true }) :=
        ⟨enabled.sound, enabled.beside, .inr ⟨missing, _, enabled.found,
          fun finished => nomatch finished.2⟩⟩
      apply wires_bind
      apply wires_ask unchanged
      intro value later answered
      have answer : DeviceTable.answer (.createBridge topology.bridge) table =
          (.ok (), table.add topology.bridge .bridge) := by
        simp [DeviceTable.answer, missing]
      obtain ⟨-, rfl⟩ := Prod.mk.inj (answer.symm.trans answered)
      apply wires_bind
      apply wires_requireIndex createdLeft
      intro device found
      obtain rfl := Option.some.inj (created.found.symm.trans found)
      apply wires_bind
      apply wires_ask createdLeft
      intro value later answered
      obtain rfl := DeviceTable.of_change_ok answered
      apply wires_bind
      apply wires_ask enabledLeft
      intro value later answered
      obtain rfl := DeviceTable.of_change_ok answered
      apply wires_inform
      have finished := enabled.adjust apart (tame_address address)
      constructor
      case sound => exact finished.sound
      case vxlan => exact finished.beside
      case bridge =>
        exact ⟨_, finished.found, .inr ⟨missing, rfl, List.mem_singleton_self address⟩⟩

/-- An overlay device that was there is left alone, and another one is up. -/
structure VxlanEnsured (topology : Topology) (before after : DeviceTable) : Prop where
  sound : topology.Sound after
  bridge : after.find? none topology.bridge = before.find? none topology.bridge
  vxlan : ∃ vxlan, after.find? none topology.vxlan.name = some vxlan ∧
    (before.find? none topology.vxlan.name = some vxlan ∨
      before.find? none topology.vxlan.name = none ∧ vxlan.up = true)

/-- The overlay device is as it was, or it was missing and is there but not up. -/
structure VxlanAbandoned (topology : Topology) (before after : DeviceTable) : Prop where
  sound : topology.Sound after
  bridge : after.find? none topology.bridge = before.find? none topology.bridge
  vxlan : after.find? none topology.vxlan.name = before.find? none topology.vxlan.name ∨
    before.find? none topology.vxlan.name = none ∧
      ∃ vxlan, after.find? none topology.vxlan.name = some vxlan ∧ vxlan.up = false

theorem wires_ensureVxlan (sound : topology.Sound table)
    (apart : topology.bridge ≠ topology.vxlan.name) (uplink : String) :
    Wires (topology.ensureVxlan Simulation.answer uplink : Action Simulation φ Unit)
      (fun _ => topology.VxlanEnsured table) (topology.VxlanAbandoned table) table := by
  have unchanged : topology.VxlanAbandoned table table := ⟨sound, rfl, .inl rfl⟩
  unfold ensureVxlan
  apply wires_bind
  apply wires_indexOf unchanged
  cases missing : table.find? none topology.vxlan.name with
  | some vxlan => exact wires_pure ⟨sound, rfl, vxlan, missing, .inl missing⟩
  | none =>
      apply wires_bind
      apply wires_requireIndex unchanged
      intro carrier carrierFound
      let kind := DeviceKind.vxlan topology.vxlan carrier.index
      let fresh := Device.fresh (table.used + 1) topology.vxlan.name kind
      have created : topology.Shows topology.vxlan.name topology.bridge fresh table
          (table.add topology.vxlan.name kind) :=
        .of_add sound missing apart.symm rfl
      have createdLeft : topology.VxlanAbandoned table (table.add topology.vxlan.name kind) :=
        ⟨created.sound, created.beside, .inr ⟨missing, fresh, created.found, rfl⟩⟩
      apply wires_bind
      apply wires_ask unchanged
      intro value later answered
      have answer : DeviceTable.answer (.createVxlan topology.vxlan carrier.index) table =
          (.ok (), table.add topology.vxlan.name kind) := by
        simp [DeviceTable.answer, missing, kind]
      obtain ⟨-, rfl⟩ := Prod.mk.inj (answer.symm.trans answered)
      apply wires_bind
      apply wires_requireIndex createdLeft
      intro device found
      obtain rfl := Option.some.inj (created.found.symm.trans found)
      apply wires_bind
      apply wires_ask createdLeft
      intro value later answered
      obtain rfl := DeviceTable.of_change_ok answered
      apply wires_inform
      have enabled := created.adjust apart.symm tame_up
      constructor
      case sound => exact enabled.sound
      case bridge => exact enabled.beside
      case vxlan => exact ⟨_, enabled.found, .inr ⟨missing, rfl⟩⟩

/-- The shared devices are as they were, but for the bridge to which the overlay device belongs. -/
structure Calm (topology : Topology) (before after : DeviceTable) : Prop where
  sound : topology.Sound after
  bridge : after.find? none topology.bridge = before.find? none topology.bridge
  vxlan : (after.find? none topology.vxlan.name).map Device.up =
    (before.find? none topology.vxlan.name).map Device.up

theorem Calm.refl (sound : topology.Sound table) : topology.Calm table table :=
  ⟨sound, rfl, rfl⟩

theorem Calm.trans {first second third : DeviceTable} (earlier : topology.Calm first second)
    (later : topology.Calm second third) : topology.Calm first third :=
  ⟨later.sound, later.bridge.trans earlier.bridge, later.vxlan.trans earlier.vxlan⟩

theorem Calm.of_shared {after : DeviceTable} (sound : topology.Sound after)
    (same : ∀ name, topology.IsShared name → after.find? none name = table.find? none name) :
    topology.Calm table after :=
  ⟨sound, same _ (.inl rfl), congrArg _ (same _ (.inr rfl))⟩

/-- What a change of a device leaves alone that is not a shared one. -/
theorem Sound.calm_adjust (sound : topology.Sound table) {holder : Option Path} {name : String}
    {device : Device} (found : table.find? holder name = some device)
    (own : holder ≠ none ∨ ¬ topology.IsShared name) {change : Device → Device}
    (tame : Tame change) : topology.Calm table (table.adjust device.index change) := by
  apply Calm.of_shared (sound.adjust_of_tame tame _)
  intro other isShared
  apply find?_adjust_other sound.toNumbered found _ tame
  rcases own with inside | notShared
  · exact .inl (by simpa using inside)
  · exact .inr fun same => notShared (same ▸ isShared)

theorem wires_createPair (sound : topology.Sound table) {names : Device.Names}
    (hostOwn : ¬ topology.IsShared names.host) (transientOwn : ¬ topology.IsShared names.transient)
    (target : Path) (interface : String) :
    Wires (createPair Simulation.answer target interface names : Action Simulation φ Unit)
      (fun _ => topology.Calm table) (topology.Calm table) table := by
  have unchanged : topology.Calm table table := .refl sound
  unfold createPair
  apply wires_bind
  apply wires_ask unchanged
  intro value later answered
  simp only [DeviceTable.answer] at answered
  split at answered
  case isTrue taken => cases answered
  case isFalse free =>
    obtain ⟨-, rfl⟩ := Prod.mk.inj answered
    have pairSound : topology.Sound (withPair table names.host names.transient) :=
      sound.withPair hostOwn transientOwn
    have pairCalm : topology.Calm table (withPair table names.host names.transient) := by
      apply Calm.of_shared pairSound
      intro name isShared
      have notTransient : names.transient ≠ name := fun same => transientOwn (same ▸ isShared)
      have notHost : names.host ≠ name := fun same => hostOwn (same ▸ isShared)
      rw [withPair, DeviceTable.find?_add_of_ne notTransient, DeviceTable.find?_add_of_ne notHost]
    apply wires_bind
    apply wires_requireIndex pairCalm
    intro device found
    apply wires_bind
    apply wires_ask pairCalm
    intro value later answered
    obtain rfl := DeviceTable.of_change_ok answered
    apply wires_inform
    apply pairCalm.trans
    apply Calm.of_shared (pairSound.moveInto _ target interface)
    intro name isShared
    apply DeviceTable.find?_adjust_of_unmatched
    intro moved movedMember same
    obtain ⟨member, -, isTransient⟩ := DeviceTable.of_find? found
    obtain rfl := pairSound.distinct moved movedMember device member same
    constructor
    · intro matching
      exact transientOwn (isTransient ▸ matching.2 ▸ isShared)
    · intro matching
      cases matching.1

/-- Whether the device with a name in a namespace is configured for a container. -/
def ContainerConfigured (target : Path) (interface : String) (containerCidr bridgeCidr : Cidr)
    (table : DeviceTable) : Prop :=
  ∃ device, table.find? (some target) interface = some device ∧ device.up = true ∧
    containerCidr ∈ device.addresses ∧ device.gateway = some bridgeCidr.address

theorem wires_configureContainer (sound : topology.Sound table) (target : Path)
    (interface : String) (containerCidr bridgeCidr : Cidr) :
    Wires (configureContainer Simulation.answer target interface containerCidr bridgeCidr :
        Action Simulation φ Unit)
      (fun _ later => topology.Calm table later ∧
        ContainerConfigured target interface containerCidr bridgeCidr later)
      (topology.Calm table) table := by
  unfold configureContainer
  apply wires_bind
  apply wires_ask (.refl sound)
  intro value later answered
  simp only [DeviceTable.answer] at answered
  cases found : table.find? (some target) interface with
  | none => simp [found] at answered
  | some device =>
      simp only [found] at answered
      obtain rfl := DeviceTable.of_change_ok answered
      obtain ⟨member, isHolder, -⟩ := DeviceTable.of_find? found
      have tame := tame_configuration containerCidr bridgeCidr.address
      apply wires_inform
      constructor
      · exact sound.calm_adjust found (.inl (Option.some_ne_none target)) tame
      · refine ⟨_, find?_adjust_self found tame, ?_, ?_, rfl⟩
        · apply sound.inside device member
          simpa [Option.isSome_iff_ne_none] using (Device.isNone_of_isHeldBy isHolder).symm
        · exact List.mem_append_right _ (List.mem_singleton_self containerCidr)

/-- Nothing but what one lookup finds on the host is different. -/
def SameBut (name : String) (before after : DeviceTable) : Prop :=
  ∀ (holder : Option Path) (other : String), holder ≠ none ∨ other ≠ name →
    after.find? holder other = before.find? holder other

/-- Whether a device on the host belongs to the bridge. -/
def Enslaved (topology : Topology) (name : String) (up : Bool) (table : DeviceTable) : Prop :=
  ∃ bridge device, table.find? none topology.bridge = some bridge ∧
    table.find? none name = some device ∧ device.up = up ∧ device.master = some bridge.index

theorem wires_enslave (sound : topology.Sound table) {name : String} {device : Device}
    (found : table.find? none name = some device) (apart : name ≠ topology.bridge) :
    Wires (topology.enslave Simulation.answer device.index : Action Simulation φ Unit)
      (fun _ later => topology.Sound later ∧ SameBut name table later ∧
        topology.Enslaved name device.up later)
      (Eq table) table := by
  unfold enslave
  apply wires_bind
  apply wires_requireIndex rfl
  intro bridge bridgeFound
  apply wires_bind
  apply wires_ask rfl
  intro master later answered
  have known := device?_of_find? sound.toNumbered found
  simp only [DeviceTable.answer, known] at answered
  obtain ⟨isMaster, rfl⟩ := Prod.mk.inj answered
  obtain rfl := Except.ok.inj isMaster
  split
  case isTrue already =>
    exact wires_pure ⟨sound, fun _ _ _ => rfl, bridge, device, bridgeFound, found, rfl, already⟩
  case isFalse other =>
    apply wires_ask rfl
    intro value later answered
    obtain rfl := DeviceTable.of_change_ok answered
    have tame := tame_master bridge.index
    refine ⟨sound.adjust_of_tame tame _, ?_, bridge, _, ?_, find?_adjust_self found tame, rfl, rfl⟩
    · intro holder other different
      exact find?_adjust_other sound.toNumbered found (different.imp_left (by simp)) tame
    · rw [find?_adjust_other sound.toNumbered found (.inr apart.symm) tame, bridgeFound]

theorem wires_enableAndEnslave (sound : topology.Sound table) {name : String}
    (apart : name ≠ topology.bridge) :
    Wires (topology.enableAndEnslave Simulation.answer name : Action Simulation φ Unit)
      (fun _ later => topology.Sound later ∧ SameBut name table later ∧
        topology.Enslaved name true later)
      (fun later => topology.Sound later ∧ SameBut name table later) table := by
  have unchanged : topology.Sound table ∧ SameBut name table table :=
    ⟨sound, fun _ _ _ => rfl⟩
  unfold enableAndEnslave
  apply wires_bind
  apply wires_requireIndex unchanged
  intro device found
  apply wires_bind
  apply wires_ask unchanged
  intro value later answered
  obtain rfl := DeviceTable.of_change_ok answered
  have enabledSound := sound.adjust_of_tame tame_up device.index
  have enabledSame : SameBut name table
      (table.adjust device.index fun device => { device with up := true }) :=
    fun holder other different =>
      find?_adjust_other sound.toNumbered found (different.imp_left (by simp)) tame_up
  apply (wires_enslave enabledSound (find?_adjust_self found tame_up) apart).mono
  · intro value last joined
    obtain ⟨lastSound, lastSame, enslaved⟩ := joined
    refine ⟨lastSound, ?_, enslaved⟩
    intro holder other different
    rw [lastSame holder other different, enabledSame holder other different]
  · intro last same
    obtain rfl := same
    exact ⟨enabledSound, enabledSame⟩

theorem wires_enslaveVxlan (sound : topology.Sound table)
    (apart : topology.bridge ≠ topology.vxlan.name) :
    Wires (topology.enslaveVxlan Simulation.answer : Action Simulation φ Unit)
      (fun _ later => topology.Sound later ∧ SameBut topology.vxlan.name table later ∧
        ∃ vxlan, table.find? none topology.vxlan.name = some vxlan ∧
          topology.Enslaved topology.vxlan.name vxlan.up later)
      (Eq table) table := by
  unfold enslaveVxlan
  apply wires_bind
  apply wires_requireIndex rfl
  intro vxlan found
  apply (wires_enslave sound found apart.symm).mono
  · intro value last joined
    obtain ⟨lastSound, lastSame, enslaved⟩ := joined
    exact ⟨lastSound, lastSame, vxlan, found, enslaved⟩
  · exact fun last same => same

theorem SameBut.calm {after : DeviceTable} {name : String} (same : SameBut name table after)
    (sound : topology.Sound after) (own : ¬ topology.IsShared name) :
    topology.Calm table after := by
  apply Calm.of_shared sound
  intro other isShared
  apply same
  exact .inr fun equal => own (equal ▸ isShared)

/-- Deleting the devices of a container leaves the shared ones alone. -/
theorem wires_detach (sound : topology.Sound table) {attachment : Device.Attachment}
    (own : ¬ topology.IsShared attachment.names.host) :
    Wires (detach Simulation.answer attachment : Action Simulation φ Unit)
      (fun _ => topology.Calm table) (topology.Calm table) table := by
  have unchanged : topology.Calm table table := .refl sound
  unfold detach
  apply wires_bind
  apply wires_requireIndex unchanged
  intro device found
  apply wires_bind
  apply wires_ask unchanged
  intro value later answered
  have known := device?_of_find? sound.toNumbered found
  simp only [DeviceTable.answer, known] at answered
  obtain ⟨-, rfl⟩ := Prod.mk.inj answered
  apply wires_inform
  apply Calm.of_shared (sound.drop _)
  intro name isShared
  cases shared : table.find? none name with
  | none => exact DeviceTable.find?_drop_of_none shared _
  | some other =>
      apply DeviceTable.find?_drop shared
      obtain ⟨member, -, isName⟩ := DeviceTable.of_find? found
      obtain ⟨otherMember, onHost, isOther⟩ := DeviceTable.of_find?_host shared
      have single := sound.shared other otherMember onHost (isOther.symm ▸ isShared)
      intro dropped
      rcases List.mem_cons.mp dropped with same | joined
      · obtain rfl := sound.distinct other otherMember device member same
        exact own (isName ▸ isOther.symm ▸ isShared)
      · have isPeer : device.kind.peer? = some other.index := by simpa using joined
        exact (sound.joined device member _ isPeer).2 other otherMember rfl single

end OverlayNet.Topology
