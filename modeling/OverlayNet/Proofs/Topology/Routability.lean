import Mathlib
import OverlayNet.Proofs.Topology.Attachment

set_option autoImplicit false

/-! # When an attached container can be reached

An attachment that succeeds leaves its container wired. The container can also be reached exactly if
no attachment before it stopped between creating a shared device and finishing it, since a device
that is there is never finished later. -/

namespace OverlayNet.Topology

variable {φ : Type} {topology : Topology} {wiring : Wiring}

/-- What a successful attachment leaves behind: the container's device is configured, and the host's
device and the overlay device belong to the bridge. -/
structure Wired (topology : Topology) (wiring : Wiring) (table : DeviceTable) : Prop where
  host : topology.Enslaved wiring.attachment.names.host true table
  vxlan : ∃ up, topology.Enslaved topology.vxlan.name up table
  container : ContainerConfigured ⟨wiring.attachment.namespacePath⟩
    wiring.attachment.interfaceName wiring.containerCidr wiring.bridgeCidr table

/-- Whether a container can be reached. -/
structure Routable (topology : Topology) (wiring : Wiring) (table : DeviceTable) : Prop where
  bridge : ∃ bridge, table.find? none topology.bridge = some bridge ∧
    BridgeFinished wiring.bridgeCidr bridge
  vxlan : topology.Enslaved topology.vxlan.name true table
  host : topology.Enslaved wiring.attachment.names.host true table
  container : ContainerConfigured ⟨wiring.attachment.namespacePath⟩
    wiring.attachment.interfaceName wiring.containerCidr wiring.bridgeCidr table

/-- Whether a shared device is there unfinished. -/
def Unfinished (topology : Topology) (address : Cidr) (table : DeviceTable) : Prop :=
  (∃ bridge, table.find? none topology.bridge = some bridge ∧
      ¬ BridgeFinished address bridge) ∨
    ∃ vxlan, table.find? none topology.vxlan.name = some vxlan ∧ vxlan.up = false

theorem routable_iff {table : DeviceTable} (wired : topology.Wired wiring table) :
    topology.Routable wiring table ↔ ¬ topology.Unfinished wiring.bridgeCidr table := by
  obtain ⟨up, bridge, vxlan, bridgeFound, vxlanFound, isUp, isMaster⟩ := wired.vxlan
  constructor
  · intro routable incomplete
    rcases incomplete with unfinished | disabled
    · obtain ⟨other, otherFound, finished⟩ := routable.bridge
      obtain ⟨third, thirdFound, notFinished⟩ := unfinished
      obtain rfl := Option.some.inj (otherFound.symm.trans thirdFound)
      exact notFinished finished
    · obtain ⟨third, thirdFound, notUp⟩ := disabled
      obtain ⟨_, fourth, _, fourthFound, fourthUp, _⟩ := routable.vxlan
      obtain rfl := Option.some.inj (fourthFound.symm.trans thirdFound)
      simp [fourthUp] at notUp
  · intro complete
    simp only [Unfinished, not_or, not_exists, not_and, not_not, Bool.not_eq_false] at complete
    obtain ⟨bridges, vxlans⟩ := complete
    exact ⟨⟨bridge, bridgeFound, bridges bridge bridgeFound⟩,
      ⟨bridge, vxlan, bridgeFound, vxlanFound, vxlans vxlan vxlanFound, isMaster⟩, wired.host,
      wired.container⟩

section Unfinished

variable {address : Cidr} {before after : DeviceTable}

theorem Calm.unfinished_iff (calm : topology.Calm before after) :
    topology.Unfinished address after ↔ topology.Unfinished address before := by
  have enabled : ∀ table : DeviceTable,
      (∃ vxlan, table.find? none topology.vxlan.name = some vxlan ∧ vxlan.up = false) ↔
        (table.find? none topology.vxlan.name).map Device.up = some false := by
    intro table
    rw [Option.map_eq_some_iff]
  rw [Unfinished, Unfinished, enabled, enabled, calm.bridge, calm.vxlan]

theorem BridgeEnsured.unfinished_iff (ensured : topology.BridgeEnsured address before after) :
    topology.Unfinished address after ↔ topology.Unfinished address before := by
  obtain ⟨bridge, found, same | ⟨missing, finished⟩⟩ := ensured.bridge
  · rw [Unfinished, Unfinished, ensured.vxlan, found, same]
  · simp [Unfinished, ensured.vxlan, found, missing, finished]

theorem BridgeAbandoned.unfinished_iff (abandoned : topology.BridgeAbandoned address before after) :
    topology.Unfinished address after ↔ topology.Unfinished address before ∨
      before.find? none topology.bridge = none ∧
        (after.find? none topology.bridge).isSome = true := by
  rcases abandoned.bridge with same | ⟨missing, bridge, found, unfinished⟩
  · rw [Unfinished, Unfinished, abandoned.vxlan, same]
    cases before.find? none topology.bridge with
    | none => simp
    | some bridge => simp
  · simp [Unfinished, abandoned.vxlan, found, missing, unfinished]

theorem VxlanEnsured.unfinished_iff (ensured : topology.VxlanEnsured before after) :
    topology.Unfinished address after ↔ topology.Unfinished address before := by
  obtain ⟨vxlan, found, same | ⟨missing, enabled⟩⟩ := ensured.vxlan
  · rw [Unfinished, Unfinished, ensured.bridge, found, same]
  · simp [Unfinished, ensured.bridge, found, missing, enabled]

theorem VxlanAbandoned.unfinished_iff (abandoned : topology.VxlanAbandoned before after) :
    topology.Unfinished address after ↔ topology.Unfinished address before ∨
      before.find? none topology.vxlan.name = none ∧
        (after.find? none topology.vxlan.name).isSome = true := by
  rcases abandoned.vxlan with same | ⟨missing, vxlan, found, disabled⟩
  · rw [Unfinished, Unfinished, abandoned.bridge, same]
    cases before.find? none topology.vxlan.name with
    | none => simp
    | some vxlan => simp
  · simp [Unfinished, abandoned.bridge, found, missing, disabled]

end Unfinished

/-- The part of an attachment that concerns the container alone. -/
def connect {κ : Type} (topology : Topology) (channel : LinkChannel κ) (wiring : Wiring) :
    Action κ φ Device.Names := do
  let names := wiring.attachment.names
  let interface := wiring.attachment.interfaceName
  let target : Path := ⟨wiring.attachment.namespacePath⟩
  createPair channel target interface names
  configureContainer channel target interface wiring.containerCidr wiring.bridgeCidr
  topology.enableAndEnslave channel names.host
  topology.enslaveVxlan channel
  pure names

/-- Whether the names that an attachment gives to its devices are not those of shared ones. -/
def OwnNames (topology : Topology) (attachment : Device.Attachment) : Prop :=
  ¬ topology.IsShared attachment.names.host ∧ ¬ topology.IsShared attachment.names.transient

theorem wires_connect {table : DeviceTable} (sound : topology.Sound table)
    (apart : topology.bridge ≠ topology.vxlan.name) (own : topology.OwnNames wiring.attachment) :
    Wires (topology.connect Simulation.answer wiring : Action Simulation φ Device.Names)
      (fun _ later => topology.Calm table later ∧ topology.Wired wiring later)
      (topology.Calm table) table := by
  obtain ⟨hostOwn, transientOwn⟩ := own
  have hostBridge : wiring.attachment.names.host ≠ topology.bridge :=
    fun same => hostOwn (.inl same)
  have hostVxlan : wiring.attachment.names.host ≠ topology.vxlan.name :=
    fun same => hostOwn (.inr same)
  unfold connect
  apply wires_bind
  apply (wires_createPair sound hostOwn transientOwn _ _).mono _ fun _ calm => calm
  intro _ paired pairedCalm
  apply wires_bind
  apply (wires_configureContainer pairedCalm.sound _ _ _ _).mono _ fun _ calm =>
    pairedCalm.trans calm
  intro _ configured done
  obtain ⟨configuredCalm, container⟩ := done
  have sofar := pairedCalm.trans configuredCalm
  apply wires_bind
  apply (wires_enableAndEnslave configuredCalm.sound hostBridge).mono
  case onFailure =>
    intro failed left
    exact sofar.trans (left.2.calm left.1 hostOwn)
  intro _ joined done
  obtain ⟨joinedSound, joinedSame, hostEnslaved⟩ := done
  have joinedCalm := sofar.trans (joinedSame.calm joinedSound hostOwn)
  apply wires_bind
  apply (wires_enslaveVxlan joinedSound apart).mono
  case onFailure =>
    intro failed same
    exact same ▸ joinedCalm
  intro _ finished done
  obtain ⟨finishedSound, finishedSame, vxlan, vxlanFound, vxlanEnslaved⟩ := done
  apply wires_pure
  have bridgeSame : finished.find? none topology.bridge = joined.find? none topology.bridge :=
    finishedSame none topology.bridge (.inr apart)
  constructor
  · apply joinedCalm.trans ⟨finishedSound, bridgeSame, ?_⟩
    obtain ⟨_, device, _, deviceFound, deviceUp, _⟩ := vxlanEnslaved
    rw [deviceFound, vxlanFound, Option.map_some, Option.map_some, deviceUp]
  · refine ⟨?host, ⟨vxlan.up, vxlanEnslaved⟩, ?container⟩
    case host =>
      obtain ⟨bridge, device, bridgeFound, deviceFound, deviceUp, deviceMaster⟩ := hostEnslaved
      refine ⟨bridge, device, bridgeSame.trans bridgeFound, ?_, deviceUp, deviceMaster⟩
      rw [finishedSame none _ (.inr hostVxlan), deviceFound]
    case container =>
      obtain ⟨device, deviceFound, configuration⟩ := container
      refine ⟨device, ?_, configuration⟩
      rw [finishedSame _ _ (.inl (Option.some_ne_none _)),
        joinedSame _ _ (.inl (Option.some_ne_none _)), deviceFound]

/-- An attachment, once the namespace is open, in three parts. -/
theorem outcome_attach {κ : Type} {channel : LinkChannel κ} {host : Host κ φ} {node : Files.Node}
    (opened : Namespace.nodeAt ⟨wiring.attachment.namespacePath⟩ host.files = .ok node) :
    (topology.attach channel wiring).outcome host =
      Procedure.outcome (do
        topology.ensureBridge channel wiring.bridgeCidr
        topology.ensureVxlan channel wiring.uplink
        topology.connect channel wiring) host := by
  have handle : Procedure.outcome (Namespace.openAt ⟨wiring.attachment.namespacePath⟩) host =
      (.ok ⟨⟨wiring.attachment.namespacePath⟩, node⟩, host) :=
    Procedure.outcome_bind_ok (Procedure.outcome_readFiles_ok opened _) _
  exact Procedure.outcome_bind_ok handle _

/-- Without a namespace nothing is done. -/
theorem outcome_attach_of_error {κ : Type} (topology : Topology) (channel : LinkChannel κ)
    {host : Host κ φ} {cause : Os.Cause}
    (missing : Namespace.nodeAt ⟨wiring.attachment.namespacePath⟩ host.files = .error cause) :
    ∃ fault, (topology.attach channel wiring).outcome host = (.error fault, host) :=
  ⟨_, Procedure.outcome_bind_error
    (Procedure.outcome_bind_error (Procedure.outcome_readFiles_error missing _) _) _⟩

/-- Whether the work on the bridge stops between creating and finishing it: the bridge was missing,
the work fails, and the bridge is there. -/
def BridgeCutShort (topology : Topology) (wiring : Wiring) (host : Host Simulation φ) : Prop :=
  host.links.table.find? none topology.bridge = none ∧
    ∃ fault later,
      (topology.ensureBridge Simulation.answer wiring.bridgeCidr).outcome host =
          (.error fault, later) ∧
        (later.links.table.find? none topology.bridge).isSome = true

/-- Whether the work on the overlay device stops between creating and finishing it. -/
def VxlanCutShort (topology : Topology) (wiring : Wiring) (host : Host Simulation φ) : Prop :=
  host.links.table.find? none topology.vxlan.name = none ∧
    ∃ fault later,
      (topology.ensureVxlan Simulation.answer wiring.uplink).outcome host = (.error fault, later) ∧
        (later.links.table.find? none topology.vxlan.name).isSome = true

/-- Whether an attachment stops between creating and finishing a shared device. -/
def CutShort (topology : Topology) (wiring : Wiring) (host : Host Simulation φ) : Prop :=
  (∃ node, Namespace.nodeAt ⟨wiring.attachment.namespacePath⟩ host.files = .ok node) ∧
    (topology.BridgeCutShort wiring host ∨
      ∃ middle,
        (topology.ensureBridge Simulation.answer wiring.bridgeCidr).outcome host =
            (.ok (), middle) ∧
          topology.VxlanCutShort wiring middle)

/-- What an attachment or a part of it makes of a host, given whether it is cut short. -/
structure AttachmentStep (topology : Topology) (wiring : Wiring) (cut : Prop)
    (before : Host Simulation φ) (finish : Except Fault Device.Names × Host Simulation φ) :
    Prop where
  untouched : Untouched before finish.2
  sound : topology.Sound finish.2.links.table
  unfinished : topology.Unfinished wiring.bridgeCidr finish.2.links.table ↔
    topology.Unfinished wiring.bridgeCidr before.links.table ∨ cut
  wired : ∀ names, finish.1 = .ok names → topology.Wired wiring finish.2.links.table ∧ ¬ cut

section Steps

variable {host : Host Simulation φ}

private theorem AttachmentStep.of_untouched {cut : Prop} {middle : Host Simulation φ}
    {finish : Except Fault Device.Names × Host Simulation φ}
    (step : topology.AttachmentStep wiring cut middle finish) (untouched : Untouched host middle)
    (same : topology.Unfinished wiring.bridgeCidr middle.links.table ↔
      topology.Unfinished wiring.bridgeCidr host.links.table) :
    topology.AttachmentStep wiring cut host finish := by
  constructor
  case untouched => exact untouched.trans step.untouched
  case sound => exact step.sound
  case unfinished => rw [step.unfinished, same]
  case wired => exact step.wired

theorem connect_step (clean : host.links.swallowed = [])
    (sound : topology.Sound host.links.table) (apart : topology.bridge ≠ topology.vxlan.name)
    (own : topology.OwnNames wiring.attachment) :
    topology.AttachmentStep wiring False host
      ((topology.connect Simulation.answer wiring).outcome host) := by
  have work := wires_connect (φ := φ) sound apart own
  rcases work.cases clean with ⟨fault, later, failed, untouched, calm⟩ | succeeded
  · rw [failed]
    exact ⟨untouched, calm.sound, by rw [calm.unfinished_iff, or_false], fun _ ok => nomatch ok⟩
  · obtain ⟨names, later, done, untouched, calm, wired⟩ := succeeded
    rw [done]
    exact ⟨untouched, calm.sound, by rw [calm.unfinished_iff, or_false],
      fun _ _ => ⟨wired, not_false⟩⟩

theorem ensureVxlan_step (clean : host.links.swallowed = [])
    (sound : topology.Sound host.links.table) (apart : topology.bridge ≠ topology.vxlan.name)
    (own : topology.OwnNames wiring.attachment) :
    topology.AttachmentStep wiring (topology.VxlanCutShort wiring host) host
      (Procedure.outcome (do
        topology.ensureVxlan Simulation.answer wiring.uplink
        topology.connect Simulation.answer wiring) host) := by
  have work := wires_ensureVxlan (φ := φ) sound apart wiring.uplink
  rcases work.cases clean with ⟨fault, later, failed, untouched, abandoned⟩ | succeeded
  · have cut : topology.VxlanCutShort wiring host ↔
        host.links.table.find? none topology.vxlan.name = none ∧
          (later.links.table.find? none topology.vxlan.name).isSome = true := by
      simp [VxlanCutShort, failed]
    rw [Procedure.outcome_bind_error failed]
    exact ⟨untouched, abandoned.sound, by rw [abandoned.unfinished_iff, cut],
      fun _ ok => nomatch ok⟩
  · obtain ⟨value, later, done, untouched, ensured⟩ := succeeded
    have uncut : ¬ topology.VxlanCutShort wiring host := by simp [VxlanCutShort, done]
    rw [Procedure.outcome_bind_ok done, eq_false uncut]
    exact (connect_step untouched.2 ensured.sound apart own).of_untouched untouched
      ensured.unfinished_iff

theorem attach_step (host : Host Simulation φ) (clean : host.links.swallowed = [])
    (sound : topology.Sound host.links.table) (apart : topology.bridge ≠ topology.vxlan.name)
    (own : topology.OwnNames wiring.attachment) :
    topology.AttachmentStep wiring (topology.CutShort wiring host) host
      ((topology.attach Simulation.answer wiring).outcome host) := by
  cases opened : Namespace.nodeAt ⟨wiring.attachment.namespacePath⟩ host.files with
  | error cause =>
      obtain ⟨fault, failed⟩ := outcome_attach_of_error topology Simulation.answer opened
      have uncut : ¬ topology.CutShort wiring host := by simp [CutShort, opened]
      rw [failed]
      exact ⟨⟨rfl, clean⟩, sound, by simp [uncut], fun _ ok => nomatch ok⟩
  | ok node =>
      rw [outcome_attach opened]
      have work := wires_ensureBridge (φ := φ) sound apart wiring.bridgeCidr
      rcases work.cases clean with ⟨fault, later, failed, untouched, abandoned⟩ | succeeded
      · have cut : topology.CutShort wiring host ↔
            host.links.table.find? none topology.bridge = none ∧
              (later.links.table.find? none topology.bridge).isSome = true := by
          simp [CutShort, BridgeCutShort, opened, failed]
        rw [Procedure.outcome_bind_error failed]
        exact ⟨untouched, abandoned.sound, by rw [abandoned.unfinished_iff, cut],
          fun _ ok => nomatch ok⟩
      · obtain ⟨value, later, done, untouched, ensured⟩ := succeeded
        have cut : topology.CutShort wiring host ↔ topology.VxlanCutShort wiring later := by
          simp [CutShort, BridgeCutShort, opened, done]
        rw [Procedure.outcome_bind_ok done, cut]
        exact (ensureVxlan_step untouched.2 ensured.sound apart own).of_untouched untouched
          ensured.unfinished_iff

end Steps

/-- A call during which requests fail as planned. -/
inductive Call where
  | attach (failures : List PlannedFailure) (wiring : Wiring)
  | detach (failures : List PlannedFailure) (attachment : Device.Attachment)

/-- The host with a plan of failures. -/
def planned (failures : List PlannedFailure) (host : Host Simulation φ) : Host Simulation φ :=
  { host with links := { host.links with failures } }

def Call.after (topology : Topology) (host : Host Simulation φ) : Call → Host Simulation φ
  | .attach failures wiring =>
      ((topology.attach Simulation.answer wiring).outcome (planned failures host)).2
  | .detach failures attachment =>
      ((Topology.detach Simulation.answer attachment).outcome (planned failures host)).2

/-- The host behind calls, one after the other. -/
def after (topology : Topology) (host : Host Simulation φ) (calls : List Call) :
    Host Simulation φ :=
  calls.foldl (Call.after topology) host

/-- Whether a call is an attachment that stops between creating and finishing a shared device. -/
def Call.IsCutShort (topology : Topology) (host : Host Simulation φ) : Call → Prop
  | .attach failures wiring => topology.CutShort wiring (planned failures host)
  | .detach _ _ => False

/-- Whether a call keeps to one address of the bridge, and its devices to names of their own. -/
def Call.Regular (topology : Topology) (address : Cidr) : Call → Prop
  | .attach _ wiring => wiring.bridgeCidr = address ∧ topology.OwnNames wiring.attachment
  | .detach _ attachment => topology.OwnNames attachment

theorem Call.after_step {address : Cidr} {host : Host Simulation φ}
    (clean : host.links.swallowed = []) (sound : topology.Sound host.links.table)
    (apart : topology.bridge ≠ topology.vxlan.name) {call : Call}
    (regular : call.Regular topology address) :
    (call.after topology host).links.swallowed = [] ∧
      topology.Sound (call.after topology host).links.table ∧
        (topology.Unfinished address (call.after topology host).links.table ↔
          topology.Unfinished address host.links.table ∨ call.IsCutShort topology host) := by
  cases call with
  | attach failures wiring =>
      obtain ⟨rfl, own⟩ := regular
      obtain ⟨⟨-, laterClean⟩, laterSound, unfinished, -⟩ :=
        attach_step (planned failures host) clean sound apart own
      exact ⟨laterClean, laterSound, unfinished⟩
  | detach failures attachment =>
      have work : Wires (Topology.detach Simulation.answer attachment : Action Simulation φ Unit)
          (fun _ => topology.Calm host.links.table) (topology.Calm host.links.table)
          (planned failures host).links.table :=
        wires_detach sound regular.1
      have ended : ∃ result later,
          (Topology.detach Simulation.answer attachment).outcome (planned failures host) =
            (result, later) ∧ Untouched (planned failures host) later ∧
              topology.Calm host.links.table later.links.table := by
        rcases work.cases clean with ⟨fault, later, failed, calm⟩ | ⟨value, later, done, calm⟩
        · exact ⟨_, later, failed, calm⟩
        · exact ⟨_, later, done, calm⟩
      obtain ⟨result, later, done, untouched, calm⟩ := ended
      simp only [Call.after, done]
      exact ⟨untouched.2, calm.sound, by rw [calm.unfinished_iff]; simp [Call.IsCutShort]⟩

/-- A shared device is there unfinished behind a history exactly if a call of it was cut short. -/
theorem after_invariant {address : Cidr} {start : Host Simulation φ}
    (clean : start.links.swallowed = []) (sound : topology.Sound start.links.table)
    (complete : ¬ topology.Unfinished address start.links.table)
    (apart : topology.bridge ≠ topology.vxlan.name) {calls : List Call}
    (regular : ∀ call ∈ calls, call.Regular topology address) :
    (topology.after start calls).links.swallowed = [] ∧
      topology.Sound (topology.after start calls).links.table ∧
        (topology.Unfinished address (topology.after start calls).links.table ↔
          ∃ earlier call later, calls = earlier ++ call :: later ∧
            call.IsCutShort topology (topology.after start earlier)) := by
  -- From the end, since a call is judged by the host behind all the calls before it.
  induction calls using List.reverseRecOn with
  | nil => exact ⟨clean, sound, by simp [after, complete]⟩
  | append_singleton calls last ih =>
      have earlierRegular : ∀ call ∈ calls, call.Regular topology address :=
        fun call member => regular call (List.mem_append_left _ member)
      have lastRegular : last.Regular topology address := regular last (by simp)
      obtain ⟨earlierClean, earlierSound, earlierUnfinished⟩ := ih earlierRegular
      obtain ⟨lastClean, lastSound, lastUnfinished⟩ :=
        Call.after_step earlierClean earlierSound apart lastRegular
      have run : topology.after start (calls ++ [last]) =
          last.after topology (topology.after start calls) := by
        simp [after]
      rw [run]
      refine ⟨lastClean, lastSound, ?_⟩
      rw [lastUnfinished, earlierUnfinished]
      constructor
      · intro either
        rcases either with ⟨earlier, call, later, rfl, cut⟩ | cut
        · exact ⟨earlier, call, later ++ [last], by simp, cut⟩
        · exact ⟨calls, last, [], rfl, cut⟩
      · intro among
        obtain ⟨earlier, call, later, split, cut⟩ := among
        rcases List.eq_nil_or_concat' later with rfl | ⟨front, final, rfl⟩
        · obtain ⟨rfl, same⟩ := List.append_inj' split rfl
          obtain rfl := List.singleton_inj.mp same
          exact .inr cut
        · rw [← List.cons_append, ← List.append_assoc] at split
          exact .inl ⟨earlier, call, front, (List.append_inj' split rfl).1, cut⟩

theorem sound_withUplink (topology : Topology) (uplink : String) :
    topology.Sound (Simulation.withUplink (some uplink)).table := by
  have empty : topology.Sound DeviceTable.empty := by
    constructor
    case toNumbered => exact numbered_empty
    all_goals simp [DeviceTable.empty]
  exact empty.add uplink rfl

/-- Over every history of attaching and detaching containers in which any request may be refused, an
attachment that succeeds leaves its container wired, and leaves it routable exactly if no earlier
call was cut short. -/
theorem attach_routable_iff (topology : Topology) (uplink : String) (address : Cidr)
    (start : Host Simulation φ) (fresh : start.links = Simulation.withUplink (some uplink))
    (apart : topology.bridge ≠ topology.vxlan.name) (uplinkOwn : ¬ topology.IsShared uplink)
    (calls : List Call) (regular : ∀ call ∈ calls, call.Regular topology address)
    (failures : List PlannedFailure) (wiring : Wiring)
    (wiringRegular : (Call.attach failures wiring).Regular topology address)
    (names : Device.Names) (last : Host Simulation φ)
    (attached : (topology.attach Simulation.answer wiring).outcome
      (planned failures (topology.after start calls)) = (.ok names, last)) :
    topology.Wired wiring last.links.table ∧
      (topology.Routable wiring last.links.table ↔
        ∀ earlier call later, calls = earlier ++ call :: later →
          ¬ call.IsCutShort topology (topology.after start earlier)) := by
  have complete : ¬ topology.Unfinished address start.links.table := by
    have bridgeMissing : start.links.table.find? none topology.bridge = none := by
      rw [fresh]
      exact DeviceTable.find?_add_of_ne (fun same => uplinkOwn (.inl same)) .physical none
    have vxlanMissing : start.links.table.find? none topology.vxlan.name = none := by
      rw [fresh]
      exact DeviceTable.find?_add_of_ne (fun same => uplinkOwn (.inr same)) .physical none
    simp [Unfinished, bridgeMissing, vxlanMissing]
  have clean : start.links.swallowed = [] := by
    rw [fresh]
    rfl
  have sound : topology.Sound start.links.table := by
    rw [fresh]
    exact sound_withUplink topology uplink
  obtain ⟨beforeClean, beforeSound, beforeUnfinished⟩ :=
    after_invariant clean sound complete apart regular
  obtain ⟨rfl, own⟩ := wiringRegular
  have step := attach_step (planned failures (topology.after start calls)) beforeClean
    beforeSound apart own
  rw [attached] at step
  obtain ⟨wired, uncut⟩ := step.wired names rfl
  refine ⟨wired, ?_⟩
  have unfinished : topology.Unfinished wiring.bridgeCidr last.links.table ↔
      ∃ earlier call later, calls = earlier ++ call :: later ∧
        call.IsCutShort topology (topology.after start earlier) := by
    rw [step.unfinished, or_iff_left uncut]
    exact beforeUnfinished
  rw [routable_iff wired, unfinished]
  simp

/-- A host with an uplink and the namespace of a container. -/
def bareHost : Host Simulation Unit where
  files := ⟨[(["ns"], .file [] Files.newFileMode)], []⟩
  links := .withUplink (some "eth0")
  filter := ()
  log := []

def usualTopology : Topology := ⟨usualBridge, .usual⟩

def firstWiring : Wiring where
  attachment := ⟨"ns", "eth0", "c1"⟩
  containerCidr := ⟨⟨0x0a200002⟩, 8, by decide⟩
  bridgeCidr := ⟨⟨0x0a200001⟩, 8, by decide⟩
  uplink := "eth0"

/-- An attachment during which the bridge cannot be brought up. -/
def firstAttempt : Call :=
  .attach [⟨"set_up", 0, true, "Operation not permitted"⟩] firstWiring

/-- The next attempt to attach the same container, during which nothing fails. -/
def secondAttempt : Except Fault Device.Names × Host Simulation Unit :=
  (usualTopology.attach Simulation.answer firstWiring).outcome
    (planned [] (usualTopology.after bareHost [firstAttempt]))

private theorem secondAttempt_eq :
    secondAttempt = (.ok firstWiring.attachment.names, secondAttempt.2) := by
  apply Prod.ext
  · decide +kernel
  · rfl

/-- The second attempt succeeds, although the bridge is down and has no address. -/
theorem not_routable_secondAttempt :
    secondAttempt.1 = .ok firstWiring.attachment.names ∧
      ¬ usualTopology.Routable firstWiring secondAttempt.2.links.table := by
  refine ⟨congrArg Prod.fst secondAttempt_eq, ?_⟩
  intro routable
  obtain ⟨bridge, found, up, -⟩ := routable.bridge
  have down : (secondAttempt.2.links.table.find? none usualTopology.bridge).map Device.up =
      some false := by
    decide +kernel
  rw [found, Option.map_some, up] at down
  cases down

theorem wired_secondAttempt : usualTopology.Wired firstWiring secondAttempt.2.links.table := by
  have apart : usualTopology.bridge ≠ usualTopology.vxlan.name := by decide
  have uplinkOwn : ¬ usualTopology.IsShared "eth0" := by
    simp only [IsShared]
    decide
  have own : usualTopology.OwnNames firstWiring.attachment := by
    simp only [OwnNames, IsShared]
    decide +kernel
  have regular : ∀ call ∈ [firstAttempt],
      call.Regular usualTopology firstWiring.bridgeCidr := by
    intro call member
    obtain rfl := List.mem_singleton.mp member
    exact ⟨rfl, own⟩
  exact (attach_routable_iff usualTopology "eth0" firstWiring.bridgeCidr bareHost rfl apart
    uplinkOwn [firstAttempt] regular [] firstWiring ⟨rfl, own⟩ firstWiring.attachment.names
    secondAttempt.2 secondAttempt_eq).1

end OverlayNet.Topology
