import Mathlib
import OverlayNet.Proofs.Topology.ObedientLinks

set_option autoImplicit false

/-! # What a failed attachment leaves behind

An attachment can fail at any of its requests. All that it leaves are shared devices and a pair that
is built in part, and detaching the container takes the pair away. -/

namespace OverlayNet.Topology

variable {φ : Type} {topology : Topology} {wiring : Wiring}

section Shared

/-- Whether a device is a shared one that was missing before. -/
def SharedAddition (topology : Topology) (before : DeviceTable) (device : Device) : Prop :=
  device.holder = none ∧
    (device.name = topology.bridge ∧ device.kind = .bridge ∧
        before.find? none topology.bridge = none ∨
      device.name = topology.vxlan.name ∧
        (∃ carrier, device.kind = .vxlan topology.vxlan carrier) ∧
        before.find? none topology.vxlan.name = none)

/-- Whether devices are shared ones that were missing before, each of them once. -/
def SharedAdditions (topology : Topology) (before : DeviceTable) (added : List Device) : Prop :=
  (∀ device ∈ added, topology.SharedAddition before device) ∧ (added.map Device.name).Nodup

/-- Whether a table is an earlier one with shared devices that were missing. -/
structure Grown (topology : Topology) (before after : DeviceTable) : Prop where
  numbered : Numbered after
  grown : ∃ added, after.devices = before.devices ++ added ∧
    topology.SharedAdditions before added

variable {before after : DeviceTable}

theorem Grown.refl (numbered : Numbered before) : topology.Grown before before :=
  ⟨numbered, [], by simp, by simp [SharedAdditions]⟩

private theorem Grown.eq_extend (grown : topology.Grown before after) :
    ∃ added, after = before.extend added after.used ∧ topology.SharedAdditions before added := by
  obtain ⟨added, devices, additions⟩ := grown.grown
  refine ⟨added, ?_, additions⟩
  rw [DeviceTable.extend, ← devices]

theorem Grown.find?_of_some (grown : topology.Grown before after) {holder : Option Path}
    {name : String} {device : Device} (found : before.find? holder name = some device) :
    after.find? holder name = some device := by
  obtain ⟨added, same, -⟩ := grown.eq_extend
  rw [same]
  exact DeviceTable.find?_extend_of_some found added after.used

private theorem Grown.find?_of_none (grown : topology.Grown before after) {holder : Option Path}
    {name : String} (unknown : before.find? holder name = none)
    (other : holder ≠ none ∨ ¬ topology.IsShared name) : after.find? holder name = none := by
  obtain ⟨added, same, additions, -⟩ := grown.eq_extend
  rw [same, DeviceTable.find?_extend, unknown, Option.none_or, List.find?_eq_none]
  intro device member matching
  simp only [Bool.and_eq_true, decide_eq_true_eq] at matching
  obtain ⟨isHolder, isName⟩ := matching
  obtain ⟨onHost, named⟩ := additions device member
  rcases other with inside | own
  · have isNone := Device.isNone_of_isHeldBy isHolder
    rw [onHost, Option.isNone_none, Option.isNone_iff_eq_none] at isNone
    exact inside isNone
  · rcases named with ⟨isBridge, -⟩ | ⟨isVxlan, -⟩
    · exact own (.inl (isName.symm.trans isBridge))
    · exact own (.inr (isName.symm.trans isVxlan))

theorem Grown.vacant (grown : topology.Grown before after) {attachment : Device.Attachment}
    (vacant : Vacant attachment before) (own : topology.OwnNames attachment) :
    Vacant attachment after :=
  ⟨grown.find?_of_none vacant.host (.inr own.1),
    grown.find?_of_none vacant.transient (.inr own.2),
    grown.find?_of_none vacant.interface (.inl (Option.some_ne_none _))⟩

private theorem Grown.missing_before (grown : topology.Grown before after) {name : String}
    (unknown : after.find? none name = none) : before.find? none name = none := by
  cases found : before.find? none name with
  | none => rfl
  | some device =>
      rw [grown.find?_of_some found] at unknown
      cases unknown

private theorem SharedAddition.missing {table : DeviceTable} {device : Device}
    (addition : topology.SharedAddition table device) : table.find? none device.name = none := by
  obtain ⟨-, ⟨isBridge, -, unknown⟩ | ⟨isVxlan, -, unknown⟩⟩ := addition
  · rw [isBridge, unknown]
  · rw [isVxlan, unknown]

/-- A shared device that is still missing may be added. -/
theorem Grown.extend_single (grown : topology.Grown before after) {device : Device}
    (addition : topology.SharedAddition after device) (fresh : device.index = after.used + 1) :
    topology.Grown before (after.extend [device] (after.used + 1)) := by
  obtain ⟨added, devices, additions, nodup⟩ := grown.grown
  have first : topology.SharedAddition before device := by
    obtain ⟨onHost, ⟨isBridge, kind, unknown⟩ | ⟨isVxlan, kind, unknown⟩⟩ := addition
    · exact ⟨onHost, .inl ⟨isBridge, kind, grown.missing_before unknown⟩⟩
    · exact ⟨onHost, .inr ⟨isVxlan, kind, grown.missing_before unknown⟩⟩
  have newName : device.name ∉ added.map Device.name := by
    intro member
    obtain ⟨other, otherMember, sameName⟩ := List.mem_map.mp member
    have unknown := addition.missing
    rw [DeviceTable.find?, List.find?_eq_none] at unknown
    apply unknown other
    · rw [devices]
      exact List.mem_append_right _ otherMember
    · simp [(additions other otherMember).1, sameName]
  refine ⟨grown.numbered.extend_single fresh, added ++ [device], ?_, ?_, ?_⟩
  · rw [DeviceTable.extend, devices, List.append_assoc]
  · intro other member
    rcases List.mem_append.mp member with earlier | last
    · exact additions other earlier
    · rw [List.mem_singleton.mp last]
      exact first
  · rw [List.map_append, List.map_singleton, ← List.concat_eq_append]
    exact nodup.concat newName

/-- Whatever of its requests are refused, the work on the bridge leaves nothing but a bridge. -/
theorem wires_ensureBridge_grown {table : DeviceTable} (grown : topology.Grown before table)
    (address : Cidr) :
    Wires (topology.ensureBridge Simulation.answer address : Action Simulation φ Unit)
      (fun _ => topology.Grown before) (topology.Grown before) table := by
  unfold ensureBridge
  apply wires_bind
  apply wires_indexOf grown
  cases missing : table.find? none topology.bridge with
  | some bridge => exact wires_pure grown
  | none =>
      let fresh := Device.fresh (table.used + 1) topology.bridge .bridge
      let enabled := { fresh with up := true }
      let finished := { enabled with addresses := [address] }
      have above : table.used < fresh.index := Nat.lt_succ_self _
      have enabledAbove : table.used < enabled.index := Nat.lt_succ_self _
      have freshLeft : topology.Grown before (table.extend [fresh] (table.used + 1)) :=
        grown.extend_single ⟨rfl, .inl ⟨rfl, rfl, missing⟩⟩ rfl
      have enabledLeft : topology.Grown before (table.extend [enabled] (table.used + 1)) :=
        grown.extend_single ⟨rfl, .inl ⟨rfl, rfl, missing⟩⟩ rfl
      have finishedLeft : topology.Grown before (table.extend [finished] (table.used + 1)) :=
        grown.extend_single ⟨rfl, .inl ⟨rfl, rfl, missing⟩⟩ rfl
      apply wires_bind
      apply wires_ask grown
      intro value later answered
      have created : DeviceTable.answer (.createBridge topology.bridge) table =
          (.ok (), table.extend [fresh] (table.used + 1)) := by
        simp [DeviceTable.answer, missing, DeviceTable.add_eq_extend, fresh]
      obtain ⟨-, rfl⟩ := Prod.mk.inj (created.symm.trans answered)
      apply wires_bind
      apply wires_requireIndex freshLeft
      intro device found
      have isFresh : device = fresh :=
        Option.some.inj (found.symm.trans (DeviceTable.find?_add_self missing .bridge))
      subst isFresh
      apply wires_bind
      apply wires_ask freshLeft
      intro value later answered
      obtain ⟨-, rfl⟩ := Prod.mk.inj ((change_single grown.numbered above _ _).symm.trans answered)
      apply wires_bind
      apply wires_ask enabledLeft
      intro value later answered
      obtain ⟨-, rfl⟩ :=
        Prod.mk.inj ((change_single grown.numbered enabledAbove _ _).symm.trans answered)
      exact wires_inform finishedLeft

theorem wires_ensureVxlan_grown {table : DeviceTable} (grown : topology.Grown before table)
    (uplink : String) :
    Wires (topology.ensureVxlan Simulation.answer uplink : Action Simulation φ Unit)
      (fun _ => topology.Grown before) (topology.Grown before) table := by
  unfold ensureVxlan
  apply wires_bind
  apply wires_indexOf grown
  cases missing : table.find? none topology.vxlan.name with
  | some vxlan => exact wires_pure grown
  | none =>
      apply wires_bind
      apply wires_requireIndex grown
      intro carrier _
      let fresh := Device.fresh (table.used + 1) topology.vxlan.name
        (.vxlan topology.vxlan carrier.index)
      let enabled := { fresh with up := true }
      have above : table.used < fresh.index := Nat.lt_succ_self _
      have freshLeft : topology.Grown before (table.extend [fresh] (table.used + 1)) :=
        grown.extend_single ⟨rfl, .inr ⟨rfl, ⟨carrier.index, rfl⟩, missing⟩⟩ rfl
      have enabledLeft : topology.Grown before (table.extend [enabled] (table.used + 1)) :=
        grown.extend_single ⟨rfl, .inr ⟨rfl, ⟨carrier.index, rfl⟩, missing⟩⟩ rfl
      apply wires_bind
      apply wires_ask grown
      intro value later answered
      have created : DeviceTable.answer (.createVxlan topology.vxlan carrier.index) table =
          (.ok (), table.extend [fresh] (table.used + 1)) := by
        simp [DeviceTable.answer, missing, DeviceTable.add_eq_extend, fresh]
      obtain ⟨-, rfl⟩ := Prod.mk.inj (created.symm.trans answered)
      apply wires_bind
      apply wires_requireIndex freshLeft
      intro device found
      have isFresh : device = fresh :=
        Option.some.inj (found.symm.trans (DeviceTable.find?_add_self missing _))
      subst isFresh
      apply wires_bind
      apply wires_ask freshLeft
      intro value later answered
      obtain ⟨-, rfl⟩ := Prod.mk.inj ((change_single grown.numbered above _ _).symm.trans answered)
      exact wires_inform enabledLeft

/-- On obedient links the shared devices are there in the end. -/
theorem exists_comes_ensureBridge (topology : Topology) (numbered : Numbered before)
    (address : Cidr) :
    ∃ after asked bridge,
      Comes (topology.ensureBridge Simulation.answer address : Action Simulation φ Unit) before
        (.ok ()) after asked ∧
        topology.Grown before after ∧ after.find? none topology.bridge = some bridge := by
  cases looked : before.find? none topology.bridge with
  | some bridge =>
      exact ⟨before, _, bridge, comes_ensureBridge looked address, .refl numbered, looked⟩
  | none =>
      have grown : topology.Grown before (before.extend
          [topology.finishedBridge (before.used + 1) address] (before.used + 1)) :=
        (Grown.refl numbered).extend_single ⟨rfl, .inl ⟨rfl, rfl, looked⟩⟩ rfl
      refine ⟨_, _, topology.finishedBridge (before.used + 1) address,
        comes_ensureBridge_missing numbered looked address, grown, ?_⟩
      rw [DeviceTable.find?_extend, looked, Option.none_or]
      simp [finishedBridge, Device.fresh]

theorem exists_comes_ensureVxlan (topology : Topology) (numbered : Numbered before)
    {uplink : String} {carrier : Device} (carried : before.find? none uplink = some carrier) :
    ∃ after asked vxlan,
      Comes (topology.ensureVxlan Simulation.answer uplink : Action Simulation φ Unit) before
        (.ok ()) after asked ∧
        topology.Grown before after ∧ after.find? none topology.vxlan.name = some vxlan := by
  cases looked : before.find? none topology.vxlan.name with
  | some vxlan =>
      exact ⟨before, _, vxlan, comes_ensureVxlan looked uplink, .refl numbered, looked⟩
  | none =>
      have grown : topology.Grown before (before.extend
          [topology.finishedVxlan (before.used + 1) carrier.index] (before.used + 1)) :=
        (Grown.refl numbered).extend_single
          ⟨rfl, .inr ⟨rfl, ⟨carrier.index, rfl⟩, looked⟩⟩ rfl
      refine ⟨_, _, topology.finishedVxlan (before.used + 1) carrier.index,
        comes_ensureVxlan_missing numbered looked carried, grown, ?_⟩
      rw [DeviceTable.find?_extend, looked, Option.none_or]
      simp [finishedVxlan, Device.fresh]

/-- On obedient links a container with vacant names is attached. -/
theorem attach_of_vacant {table : DeviceTable} {requests : List LinkRequest}
    (numbered : Numbered table) (vacant : Vacant wiring.attachment table)
    (own : topology.OwnNames wiring.attachment) {carrier : Device}
    (carried : table.find? none wiring.uplink = some carrier) {host : Host Simulation φ}
    (started : host.links = obedient table requests) {node : Files.Node}
    (opened : Namespace.nodeAt ⟨wiring.attachment.namespacePath⟩ host.files = .ok node) :
    ∃ later, (topology.attach Simulation.answer wiring).outcome host =
      (.ok wiring.attachment.names, later) := by
  obtain ⟨bridged, _, bridge, bridging, bridgedGrown, bridgeFound⟩ :=
    exists_comes_ensureBridge (φ := φ) topology numbered wiring.bridgeCidr
  obtain ⟨overlaid, _, vxlan, overlaying, overlaidGrown, vxlanFound⟩ :=
    exists_comes_ensureVxlan (φ := φ) topology bridgedGrown.numbered
      (bridgedGrown.find?_of_some carried)
  have connecting := comes_connect (φ := φ) overlaidGrown.numbered
    (overlaidGrown.vacant (bridgedGrown.vacant vacant own) own)
    (overlaidGrown.find?_of_some bridgeFound) vxlanFound
  obtain ⟨log, attached⟩ :=
    outcome_attach_of_comes opened started bridging overlaying connecting
  exact ⟨_, attached⟩

end Shared

section Pair

/-- Whether a table is another one with a pair of devices at its end, whose first one is on the host
under the name of a container's. -/
def HalfBuilt (attachment : Device.Attachment) (base table : DeviceTable) : Prop :=
  ∃ first second : Device, table = base.extend [first, second] (base.used + 2) ∧
    first.index = base.used + 1 ∧ first.name = attachment.names.host ∧ first.holder = none ∧
    first.kind = .pair (base.used + 2) ∧ second.index = base.used + 2

variable {base table : DeviceTable}

theorem HalfBuilt.numbered {attachment : Device.Attachment}
    (built : HalfBuilt attachment base table) (numbered : Numbered base) : Numbered table := by
  obtain ⟨first, second, rfl, firstIndex, -, -, -, secondIndex⟩ := built
  exact numbered.extend_pair firstIndex secondIndex

/-- The rest of the work on a pair, once it is created. -/
def movePeer {κ : Type} (channel : LinkChannel κ) (target : Path) (interface : String)
    (names : Device.Names) : Action κ φ Unit := do
  let peer ← requireIndex channel "Failed to resolve ifindex for transient veth" names.transient
  Procedure.ask channel (.moveInto peer target interface)
  Procedure.inform ("Created veth " ++ names.host ++ " and moved peer into " ++ target.text ++
    " as " ++ interface)

private theorem createPair_eq {κ : Type} (channel : LinkChannel κ) (target : Path)
    (interface : String) (names : Device.Names) :
    (createPair channel target interface names : Action κ φ Unit) =
      Procedure.ask channel (.createPair names.host names.transient) >>= fun _ =>
        movePeer channel target interface names :=
  rfl

theorem wires_movePeer (numbered : Numbered base) (vacant : Vacant wiring.attachment base)
    (built : HalfBuilt wiring.attachment base table) :
    Wires (movePeer Simulation.answer ⟨wiring.attachment.namespacePath⟩
        wiring.attachment.interfaceName wiring.attachment.names : Action Simulation φ Unit)
      (fun _ => HalfBuilt wiring.attachment base) (HalfBuilt wiring.attachment base) table := by
  obtain ⟨first, second, rfl, firstIndex, isHost, onHost, kind, secondIndex⟩ := built
  have built : HalfBuilt wiring.attachment base (base.extend [first, second] (base.used + 2)) :=
    ⟨first, second, rfl, firstIndex, isHost, onHost, kind, secondIndex⟩
  unfold movePeer
  apply wires_bind
  apply wires_requireIndex built
  intro device found
  have isSecond : device = second := by
    rw [DeviceTable.find?_extend, vacant.transient, Option.none_or] at found
    have notFirst : first.name ≠ wiring.attachment.names.transient := by
      rw [isHost]
      exact Device.host_ne_transient _ _
    simp [notFirst] at found
    exact found.2.symm
  subst isSecond
  apply wires_bind
  apply wires_ask built
  intro value later answered
  obtain ⟨-, rfl⟩ :=
    Prod.mk.inj ((change_second numbered firstIndex secondIndex _ _).symm.trans answered)
  exact wires_inform ⟨first, _, rfl, firstIndex, isHost, onHost, kind, secondIndex⟩

theorem wires_configureContainer_built (numbered : Numbered base)
    (vacant : Vacant wiring.attachment base) (built : HalfBuilt wiring.attachment base table) :
    Wires (configureContainer Simulation.answer ⟨wiring.attachment.namespacePath⟩
        wiring.attachment.interfaceName wiring.containerCidr wiring.bridgeCidr :
          Action Simulation φ Unit)
      (fun _ => HalfBuilt wiring.attachment base) (HalfBuilt wiring.attachment base) table := by
  obtain ⟨first, second, rfl, firstIndex, isHost, onHost, kind, secondIndex⟩ := built
  unfold configureContainer
  apply wires_bind
  apply wires_ask ⟨first, second, rfl, firstIndex, isHost, onHost, kind, secondIndex⟩
  intro value later answered
  simp only [DeviceTable.answer] at answered
  split at answered
  case h_1 unknown => cases answered
  case h_2 device found =>
    have isSecond : device = second := by
      rw [DeviceTable.find?_extend, vacant.interface, Option.none_or] at found
      simp [Device.isHeldBy, onHost] at found
      exact found.2.symm
    subst isSecond
    obtain ⟨-, rfl⟩ :=
      Prod.mk.inj ((change_second numbered firstIndex secondIndex _ _).symm.trans answered)
    exact wires_inform ⟨first, _, rfl, firstIndex, isHost, onHost, kind, secondIndex⟩

theorem wires_enableAndEnslave_built (numbered : Numbered base)
    (vacant : Vacant wiring.attachment base) (built : HalfBuilt wiring.attachment base table) :
    Wires (topology.enableAndEnslave Simulation.answer wiring.attachment.names.host :
        Action Simulation φ Unit)
      (fun _ => HalfBuilt wiring.attachment base) (HalfBuilt wiring.attachment base) table := by
  obtain ⟨first, second, rfl, firstIndex, isHost, onHost, kind, secondIndex⟩ := built
  have built : HalfBuilt wiring.attachment base (base.extend [first, second] (base.used + 2)) :=
    ⟨first, second, rfl, firstIndex, isHost, onHost, kind, secondIndex⟩
  let enabled := { first with up := true }
  have enabledIndex : enabled.index = base.used + 1 := firstIndex
  have enabledBuilt : HalfBuilt wiring.attachment base
      (base.extend [enabled, second] (base.used + 2)) :=
    ⟨enabled, second, rfl, firstIndex, isHost, onHost, kind, secondIndex⟩
  unfold enableAndEnslave
  apply wires_bind
  apply wires_requireIndex built
  intro device found
  have isFirst : device = first := by
    rw [DeviceTable.find?_extend, vacant.host, Option.none_or] at found
    simp [onHost, isHost] at found
    exact found.symm
  subst isFirst
  apply wires_bind
  apply wires_ask built
  intro value later answered
  obtain ⟨-, rfl⟩ :=
    Prod.mk.inj ((change_first numbered firstIndex secondIndex _ _).symm.trans answered)
  unfold enslave
  apply wires_bind
  apply wires_requireIndex enabledBuilt
  intro bridge _
  apply wires_bind
  apply wires_masterOf enabledBuilt
  intro master
  split
  case isTrue => exact wires_pure enabledBuilt
  case isFalse =>
    apply wires_ask enabledBuilt
    intro value later answered
    obtain ⟨-, rfl⟩ :=
      Prod.mk.inj ((change_first numbered enabledIndex secondIndex _ _).symm.trans answered)
    exact ⟨_, second, rfl, firstIndex, isHost, onHost, kind, secondIndex⟩

/-- Whether a table is another one in which the overlay device may have been given to the bridge. -/
def VxlanJoined (topology : Topology) (before after : DeviceTable) : Prop :=
  after = before ∨ ∃ vxlan bridge, before.find? none topology.vxlan.name = some vxlan ∧
    before.find? none topology.bridge = some bridge ∧
    after = before.adjust vxlan.index fun device => { device with master := some bridge.index }

theorem wires_enslaveVxlan_joined {failure : DeviceTable → Prop} (left : failure table) :
    Wires (topology.enslaveVxlan Simulation.answer : Action Simulation φ Unit)
      (fun _ => topology.VxlanJoined table) failure table := by
  unfold enslaveVxlan
  apply wires_bind
  apply wires_requireIndex left
  intro vxlan vxlanFound
  unfold enslave
  apply wires_bind
  apply wires_requireIndex left
  intro bridge bridgeFound
  apply wires_bind
  apply wires_masterOf left
  intro master
  split
  case isTrue => exact wires_pure (.inl rfl)
  case isFalse =>
    apply wires_ask left
    intro value later answered
    exact .inr ⟨vxlan, bridge, vxlanFound, bridgeFound, DeviceTable.of_change_ok answered⟩

/-- What is left of connecting a container, once its pair is created. -/
def finish {κ : Type} (topology : Topology) (channel : LinkChannel κ) (wiring : Wiring) :
    Action κ φ Device.Names := do
  let interface := wiring.attachment.interfaceName
  let target : Path := ⟨wiring.attachment.namespacePath⟩
  movePeer channel target interface wiring.attachment.names
  configureContainer channel target interface wiring.containerCidr wiring.bridgeCidr
  topology.enableAndEnslave channel wiring.attachment.names.host
  topology.enslaveVxlan channel
  pure wiring.attachment.names

theorem wires_finish (topology : Topology) (numbered : Numbered base)
    (vacant : Vacant wiring.attachment base) (built : HalfBuilt wiring.attachment base table) :
    Wires (topology.finish Simulation.answer wiring : Action Simulation φ Device.Names)
      (fun _ later => ∃ joined, HalfBuilt wiring.attachment base joined ∧
        topology.VxlanJoined joined later)
      (HalfBuilt wiring.attachment base) table := by
  unfold finish
  apply wires_bind
  apply (wires_movePeer numbered vacant built).mono _ fun _ left => left
  intro _ moved movedBuilt
  apply wires_bind
  apply (wires_configureContainer_built numbered vacant movedBuilt).mono _ fun _ left => left
  intro _ configured configuredBuilt
  apply wires_bind
  apply (wires_enableAndEnslave_built numbered vacant configuredBuilt).mono _ fun _ left => left
  intro _ joined joinedBuilt
  apply wires_bind
  apply (wires_enslaveVxlan_joined joinedBuilt).mono _ fun _ left => left
  exact fun _ _ vxlanJoined => wires_pure ⟨joined, joinedBuilt, vxlanJoined⟩

end Pair

section Attempt

variable {κ : Type} {channel : LinkChannel κ}

private theorem connect_eq (topology : Topology) (channel : LinkChannel κ) (wiring : Wiring) :
    (topology.connect channel wiring : Action κ φ Device.Names) =
      Procedure.ask channel (.createPair wiring.attachment.names.host
        wiring.attachment.names.transient) >>= fun _ => topology.finish channel wiring := by
  rw [connect, createPair_eq]
  exact bind_assoc _ _ _

/-- The part of an attachment that comes before the container's pair is created. -/
def ensureShared (topology : Topology) (channel : LinkChannel κ) (wiring : Wiring) :
    Action κ φ Unit := do
  let _ ← Namespace.openAt ⟨wiring.attachment.namespacePath⟩
  topology.ensureBridge channel wiring.bridgeCidr
  topology.ensureVxlan channel wiring.uplink

/-- Whether an attachment comes to create the container's pair: all before succeeds, and the request
for the pair is carried out. -/
def PairCreated (topology : Topology) (channel : LinkChannel κ) (wiring : Wiring)
    (host : Host κ φ) : Prop :=
  ∃ middle later,
    (topology.ensureShared channel wiring).outcome host = (.ok (), middle) ∧
      (Procedure.ask channel (.createPair wiring.attachment.names.host
        wiring.attachment.names.transient)).outcome middle = (.ok (), later)

private theorem not_pairCreated_of_error {host later : Host κ φ} {fault : Fault}
    (failed : (topology.ensureShared channel wiring).outcome host = (.error fault, later)) :
    ¬ topology.PairCreated channel wiring host := by
  rintro ⟨middle, last, done, -⟩
  rw [failed] at done
  cases done

theorem pairCreated_iff {host middle : Host κ φ}
    (done : (topology.ensureShared channel wiring).outcome host = (.ok (), middle)) :
    topology.PairCreated channel wiring host ↔
      ∃ later, (Procedure.ask channel (.createPair wiring.attachment.names.host
        wiring.attachment.names.transient)).outcome middle = (.ok (), later) := by
  simp [PairCreated, done]

theorem outcome_ensureShared {host : Host κ φ} {node : Files.Node}
    (opened : Namespace.nodeAt ⟨wiring.attachment.namespacePath⟩ host.files = .ok node) :
    (topology.ensureShared channel wiring).outcome host =
      Procedure.outcome (do
        topology.ensureBridge channel wiring.bridgeCidr
        topology.ensureVxlan channel wiring.uplink) host := by
  have handle : Procedure.outcome (Namespace.openAt ⟨wiring.attachment.namespacePath⟩) host =
      (.ok ⟨⟨wiring.attachment.namespacePath⟩, node⟩, host) :=
    Procedure.outcome_bind_ok (Procedure.outcome_readFiles_ok opened _) _
  exact Procedure.outcome_bind_ok handle _

/-- An attachment first sees to the shared devices, and then connects the container. -/
theorem outcome_attach_eq (topology : Topology) (channel : LinkChannel κ) (wiring : Wiring)
    (host : Host κ φ) :
    (topology.attach channel wiring).outcome host =
      Procedure.outcome (do
        topology.ensureShared channel wiring
        topology.connect channel wiring) host := by
  cases opened : Namespace.nodeAt ⟨wiring.attachment.namespacePath⟩ host.files with
  | error cause =>
      have failed : Procedure.outcome (Namespace.openAt ⟨wiring.attachment.namespacePath⟩) host =
          (.error (.system "Failure opening target net namespace fd"
            wiring.attachment.namespacePath cause), host) :=
        Procedure.outcome_bind_error (Procedure.outcome_readFiles_error opened _) _
      exact (Procedure.outcome_bind_error failed _).trans
        (Procedure.outcome_bind_error (Procedure.outcome_bind_error failed _) _).symm
  | ok node =>
      have parted : (do
          topology.ensureBridge channel wiring.bridgeCidr
          topology.ensureVxlan channel wiring.uplink
          topology.connect channel wiring : Action κ φ Device.Names) =
        (do
          topology.ensureBridge channel wiring.bridgeCidr
          topology.ensureVxlan channel wiring.uplink) >>= fun _ =>
            topology.connect channel wiring :=
        (bind_assoc _ _ _).symm
      rw [outcome_attach opened, parted]
      exact Procedure.outcome_bind_congr (outcome_ensureShared opened).symm _

theorem ensures_ensureShared (topology : Topology) (wiring : Wiring) {host : Host Simulation φ}
    (clean : host.links.swallowed = []) (numbered : Numbered host.links.table) :
    Procedure.Ensures (topology.ensureShared Simulation.answer wiring)
      (fun _ later => Untouched host later ∧ topology.Grown host.links.table later.links.table)
      (fun _ later => Untouched host later ∧ topology.Grown host.links.table later.links.table)
      host := by
  cases opened : Namespace.nodeAt ⟨wiring.attachment.namespacePath⟩ host.files with
  | error cause =>
      have failed : Procedure.outcome (topology.ensureShared Simulation.answer wiring) host =
          (.error (.system "Failure opening target net namespace fd"
            wiring.attachment.namespacePath cause), host) :=
        Procedure.outcome_bind_error
          (Procedure.outcome_bind_error (Procedure.outcome_readFiles_error opened _) _) _
      exact (Procedure.ensures_of_error failed).mpr ⟨⟨rfl, clean⟩, .refl numbered⟩
  | ok node =>
      have work : Wires (do
          topology.ensureBridge Simulation.answer wiring.bridgeCidr
          topology.ensureVxlan Simulation.answer wiring.uplink : Action Simulation φ Unit)
          (fun _ => topology.Grown host.links.table) (topology.Grown host.links.table)
          host.links.table := by
        apply wires_bind
        apply (wires_ensureBridge_grown (.refl numbered) _).mono _ fun _ left => left
        exact fun _ _ grown => wires_ensureVxlan_grown grown _
      rw [Procedure.Ensures, outcome_ensureShared opened]
      exact work host clean rfl

/-- A pair is only created under names that no device has. -/
theorem wires_createPair_built (wiring : Wiring) (base : DeviceTable) :
    Wires (Procedure.ask Simulation.answer (.createPair wiring.attachment.names.host
        wiring.attachment.names.transient) : Action Simulation φ Unit)
      (fun _ later => HalfBuilt wiring.attachment base later ∧
        base.find? none wiring.attachment.names.host = none ∧
        base.find? none wiring.attachment.names.transient = none)
      (Eq base) base := by
  apply wires_ask rfl
  intro value later answered
  simp only [DeviceTable.answer] at answered
  split at answered
  case isTrue taken => cases answered
  case isFalse free =>
    obtain ⟨-, rfl⟩ := Prod.mk.inj answered
    rw [DeviceTable.add_eq_extend, DeviceTable.add_eq_extend, DeviceTable.extend_extend]
    simp only [Bool.or_eq_true, not_or, Bool.not_eq_true, Option.isSome_eq_false_iff,
      Option.isNone_iff_eq_none] at free
    exact ⟨⟨_, _, rfl, rfl, rfl, rfl, rfl, rfl⟩, free⟩

/-- How an attachment can go: it stops before the pair is created, or with the pair built in part,
or it succeeds, and then the overlay device may have been given to the bridge. Nothing is asked of
the names but that the container's interface is new. -/
theorem attach_cases (topology : Topology) {host : Host Simulation φ}
    (clean : host.links.swallowed = []) (numbered : Numbered host.links.table)
    (interfaceFree : host.links.table.find? (some ⟨wiring.attachment.namespacePath⟩)
      wiring.attachment.interfaceName = none) :
    (∃ fault later,
      (topology.attach Simulation.answer wiring).outcome host = (.error fault, later) ∧
        Untouched host later ∧ topology.Grown host.links.table later.links.table ∧
        ¬ topology.PairCreated Simulation.answer wiring host) ∨
      ∃ base, topology.Grown host.links.table base ∧
        topology.PairCreated Simulation.answer wiring host ∧
        ((∃ fault later,
          (topology.attach Simulation.answer wiring).outcome host = (.error fault, later) ∧
            Untouched host later ∧ HalfBuilt wiring.attachment base later.links.table) ∨
          ∃ names later joined,
            (topology.attach Simulation.answer wiring).outcome host = (.ok names, later) ∧
              Untouched host later ∧ HalfBuilt wiring.attachment base joined ∧
              topology.VxlanJoined joined later.links.table) := by
  rw [outcome_attach_eq]
  have shared := ensures_ensureShared topology wiring clean numbered
  rcases shared.cases with ⟨fault, last, refused, untouched, grown⟩ | succeeded
  · exact .inl ⟨fault, last, Procedure.outcome_bind_error refused _, untouched, grown,
      not_pairCreated_of_error refused⟩
  obtain ⟨_, middle, done, untouched, grown⟩ := succeeded
  rw [Procedure.outcome_bind_ok done, connect_eq]
  have asked := wires_createPair_built (φ := φ) wiring middle.links.table
  rcases asked.cases untouched.2 with ⟨fault, last, refused, moreUntouched, same⟩ | created
  · have uncreated : ¬ topology.PairCreated Simulation.answer wiring host := by
      rw [pairCreated_iff done, refused]
      simp
    rw [same] at grown
    exact .inl ⟨fault, last, Procedure.outcome_bind_error refused _,
      untouched.trans moreUntouched, grown, uncreated⟩
  obtain ⟨_, paired, create, moreUntouched, built, hostFree, transientFree⟩ := created
  have vacant : Vacant wiring.attachment middle.links.table :=
    ⟨hostFree, transientFree, grown.find?_of_none interfaceFree (.inl (Option.some_ne_none _))⟩
  rw [Procedure.outcome_bind_ok create]
  refine .inr ⟨_, grown, (pairCreated_iff done).mpr ⟨paired, create⟩, ?_⟩
  have rest := wires_finish (φ := φ) topology grown.numbered vacant built
  have earlier := untouched.trans moreUntouched
  rcases rest.cases moreUntouched.2 with ⟨fault, last, stopped, lastUntouched, left⟩ | finished
  · exact .inl ⟨fault, last, stopped, earlier.trans lastUntouched, left⟩
  · obtain ⟨names, last, ended, lastUntouched, joined, joinedBuilt, vxlanJoined⟩ := finished
    exact .inr ⟨names, last, joined, ended, earlier.trans lastUntouched, joinedBuilt, vxlanJoined⟩

/-- A failed attachment leaves the table with shared devices that were missing, and with a pair at
its end if it came to create that. -/
theorem attach_residue {host later : Host Simulation φ} {fault : Fault}
    (clean : host.links.swallowed = []) (numbered : Numbered host.links.table)
    (vacant : Vacant wiring.attachment host.links.table)
    (failed : (topology.attach Simulation.answer wiring).outcome host = (.error fault, later)) :
    Untouched host later ∧ ∃ base, topology.Grown host.links.table base ∧
      (topology.PairCreated Simulation.answer wiring host ∧
          HalfBuilt wiring.attachment base later.links.table ∨
        ¬ topology.PairCreated Simulation.answer wiring host ∧ later.links.table = base) := by
  rcases attach_cases topology clean numbered vacant.interface with
    ⟨_, last, stopped, untouched, grown, uncreated⟩ | ⟨base, grown, created, stopped | succeeded⟩
  · obtain ⟨-, rfl⟩ := Prod.mk.inj (failed.symm.trans stopped)
    exact ⟨untouched, _, grown, .inr ⟨uncreated, rfl⟩⟩
  · obtain ⟨_, last, stopped, untouched, left⟩ := stopped
    obtain ⟨-, rfl⟩ := Prod.mk.inj (failed.symm.trans stopped)
    exact ⟨untouched, base, grown, .inl ⟨created, left⟩⟩
  · obtain ⟨_, last, _, done, -⟩ := succeeded
    cases failed.symm.trans done

end Attempt

section Cleaning

theorem isNotFound_missing (context name : String) :
    (missing context name).isNotFound = true := by
  have occurs :
      Text.occursIn "No such device".toList (name ++ ": No such device").toList = true := by
    rw [Text.occursIn_iff]
    refine ⟨name.toList ++ ": ".toList, [], ?_⟩
    rw [String.toList_append, List.append_nil, List.append_assoc]
    rfl
  rw [missing, Fault.isNotFound, occurs, Bool.true_or]

/-- The host once its links fail no more. -/
def healed (host : Host Simulation φ) : Host Simulation φ :=
  { host with links := host.links.heal }

theorem links_healed (host : Host Simulation φ) :
    (healed host).links = obedient host.links.table host.links.requests :=
  rfl

theorem comes_detach_built {base table : DeviceTable} {attachment : Device.Attachment}
    (numbered : Numbered base) (vacant : Vacant attachment base)
    (built : HalfBuilt attachment base table) :
    ∃ asked, Comes (detach Simulation.answer attachment : Action Simulation φ Unit) table (.ok ())
      (base.extend [] (base.used + 2)) asked := by
  obtain ⟨first, second, rfl, firstIndex, isHost, onHost, kind, secondIndex⟩ := built
  have found : (base.extend [first, second] (base.used + 2)).find? none attachment.names.host =
      some first := by
    rw [DeviceTable.find?_extend, vacant.host, Option.none_or]
    simp [onHost, isHost]
  have deleted := comes_detach (φ := φ) (numbered.extend_pair firstIndex secondIndex) found
  have both : first.index :: first.kind.peer?.toList = [first.index, second.index] := by
    rw [kind, secondIndex]
    rfl
  rw [both, drop_pair numbered firstIndex secondIndex] at deleted
  exact ⟨_, deleted⟩

/-- Detaching behind a failed attachment deletes the pair, if there is one, and says so if there is
none. Either way only shared devices are left of the attachment. -/
theorem detach_residue {host later : Host Simulation φ} {fault : Fault}
    (clean : host.links.swallowed = []) (numbered : Numbered host.links.table)
    (vacant : Vacant wiring.attachment host.links.table)
    (own : topology.OwnNames wiring.attachment)
    (failed : (topology.attach Simulation.answer wiring).outcome host = (.error fault, later)) :
    ∃ result table asked,
      Comes (detach Simulation.answer wiring.attachment : Action Simulation φ Unit)
        later.links.table result table asked ∧
      topology.Grown host.links.table table ∧
      (topology.PairCreated Simulation.answer wiring host → result = .ok ()) ∧
      (¬ topology.PairCreated Simulation.answer wiring host →
        result = .error (missing "Failure deleting veth pair" wiring.attachment.names.host)) := by
  obtain ⟨-, base, grown, ⟨created, built⟩ | ⟨uncreated, rfl⟩⟩ :=
    attach_residue clean numbered vacant failed
  · obtain ⟨asked, deleted⟩ :=
      comes_detach_built (φ := φ) grown.numbered (grown.vacant vacant own) built
    have left : topology.Grown host.links.table (base.extend [] (base.used + 2)) := by
      obtain ⟨added, devices, additions⟩ := grown.grown
      refine ⟨⟨?_, ?_⟩, added, ?_, additions⟩
      · intro device member
        rw [DeviceTable.extend, List.append_nil] at member
        exact (grown.numbered.bounded device member).trans (Nat.le_add_right _ 2)
      · intro first firstMember second secondMember
        rw [DeviceTable.extend, List.append_nil] at firstMember secondMember
        exact grown.numbered.distinct first firstMember second secondMember
      · rw [DeviceTable.extend, List.append_nil, devices]
    exact ⟨_, _, _, deleted, left, fun _ => rfl, fun uncreated => absurd created uncreated⟩
  · have unknown := (grown.vacant vacant own).host
    exact ⟨_, _, _, comes_detach_missing unknown, grown, fun created => absurd created uncreated,
      fun _ => rfl⟩

/-- Whatever requests of an attachment are refused, once none is any more, detaching the container
succeeds if the pair had been created, and reports it missing if not. Only shared devices are left,
and the container can be attached again. -/
theorem failed_attachment_cleaned (topology : Topology) (wiring : Wiring)
    (host : Host Simulation φ) (clean : host.links.swallowed = [])
    (numbered : Numbered host.links.table) (carrier : Device)
    (carried : host.links.table.find? none wiring.uplink = some carrier)
    (vacant : Vacant wiring.attachment host.links.table)
    (own : topology.OwnNames wiring.attachment) (fault : Fault) (later : Host Simulation φ)
    (failed : (topology.attach Simulation.answer wiring).outcome host = (.error fault, later)) :
    ∃ result after added,
      (detach Simulation.answer wiring.attachment).outcome (healed later) = (result, after) ∧
        (topology.PairCreated Simulation.answer wiring host → result = .ok ()) ∧
        (¬ topology.PairCreated Simulation.answer wiring host →
          ∃ unknown, result = .error unknown ∧ unknown.isNotFound = true) ∧
        after.links.table.devices = host.links.table.devices ++ added ∧
        topology.SharedAdditions host.links.table added ∧
        ∀ (next : Wiring) (files : Files.Tree) (node : Files.Node),
          next.attachment = wiring.attachment → next.uplink = wiring.uplink →
            Namespace.nodeAt ⟨wiring.attachment.namespacePath⟩ files = .ok node →
              ∃ last, (topology.attach Simulation.answer next).outcome { after with files } =
                (.ok wiring.attachment.names, last) := by
  obtain ⟨result, table, asked, detaching, grown, whenCreated, whenNot⟩ :=
    detach_residue clean numbered vacant own failed
  obtain ⟨log, detached⟩ := detaching (healed later) _ (links_healed later)
  obtain ⟨added, devices, additions⟩ := grown.grown
  refine ⟨result, _, added, detached, whenCreated, ?_, devices, additions, ?_⟩
  · intro uncreated
    exact ⟨_, whenNot uncreated, isNotFound_missing _ _⟩
  · intro next files node sameAttachment sameUplink opened
    rw [← sameAttachment] at vacant own opened ⊢
    rw [← sameUplink] at carried
    exact attach_of_vacant grown.numbered (grown.vacant vacant own) own
      (grown.find?_of_some carried) rfl opened

/-- A host on which the device of a container cannot be configured. -/
def unconfigurableHost : Host Simulation Unit :=
  planned [⟨"configure_in_namespace", 0, true, "Operation not permitted"⟩] bareHost

def unconfigurableAttempt : Except Fault Device.Names × Host Simulation Unit :=
  (usualTopology.attach Simulation.answer firstWiring).outcome unconfigurableHost

private theorem unconfigurableAttempt_eq :
    unconfigurableAttempt =
      (.error (.rejected "Injected failure in configure_in_namespace" "Operation not permitted"),
        unconfigurableAttempt.2) := by
  apply Prod.ext
  · decide +kernel
  · rfl

private theorem pairCreated_unconfigurableHost :
    usualTopology.PairCreated Simulation.answer firstWiring unconfigurableHost := by
  refine ⟨((usualTopology.ensureShared Simulation.answer firstWiring).outcome
    unconfigurableHost).2, _, Prod.ext ?shared rfl, Prod.ext ?pair rfl⟩
  case shared => decide +kernel
  case pair => decide +kernel

/-- A pair that was created and moved but not configured is taken away. -/
theorem failed_attachment_cleaned_unconfigurable :
    ∃ after added,
      (detach Simulation.answer firstWiring.attachment).outcome
          (healed unconfigurableAttempt.2) = (.ok (), after) ∧
        after.links.table.devices = bareHost.links.table.devices ++ added ∧
        usualTopology.SharedAdditions bareHost.links.table added := by
  have numbered : Numbered unconfigurableHost.links.table := numbered_empty.add "eth0" .physical
  have vacant : Vacant firstWiring.attachment unconfigurableHost.links.table :=
    ⟨by decide +kernel, by decide +kernel, by decide +kernel⟩
  have own : usualTopology.OwnNames firstWiring.attachment := by
    simp only [OwnNames, IsShared]
    decide +kernel
  obtain ⟨result, after, added, detached, whenCreated, -, devices, additions, -⟩ :=
    failed_attachment_cleaned usualTopology firstWiring unconfigurableHost rfl numbered
      (Device.fresh 1 "eth0" .physical) (by decide +kernel) vacant own _ _
      unconfigurableAttempt_eq
  rw [whenCreated pairCreated_unconfigurableHost] at detached
  exact ⟨after, added, detached, devices, additions⟩

end Cleaning

end OverlayNet.Topology
