import Mathlib
import OverlayNet.Proofs.Device.Collisions
import OverlayNet.Proofs.Topology.Extension
import OverlayNet.Proofs.Topology.Routability

set_option autoImplicit false

/-! # Work on links that obey

On links for which no failure is planned the work on a topology comes to one result, one table and
one list of requests. -/

namespace OverlayNet.Topology

variable {φ α β : Type}

/-- Links that refuse nothing but what their table refuses. -/
def obedient (table : DeviceTable) (requests : List LinkRequest) : Simulation where
  table := table
  failures := []
  swallowed := []
  requests := requests

/-- Whether work on obedient links with a table comes to a result, another table and the given
requests. -/
def Comes (work : Action Simulation φ α) (table : DeviceTable) (result : Except Fault α)
    (after : DeviceTable) (asked : List LinkRequest) : Prop :=
  ∀ (host : Host Simulation φ) (requests : List LinkRequest),
    host.links = obedient table requests →
      ∃ log, Procedure.outcome work host =
        (result, { host with links := obedient after (requests ++ asked), log })

section Rules

variable {table middle after : DeviceTable}

theorem comes_pure (value : α) (table : DeviceTable) :
    Comes (pure value : Action Simulation φ α) table (.ok value) table [] := by
  intro host requests started
  refine ⟨host.log, ?_⟩
  rw [List.append_nil, ← started]
  rfl

theorem comes_throw (fault : Fault) (table : DeviceTable) :
    Comes (throw fault : Action Simulation φ α) table (.error fault) table [] := by
  intro host requests started
  refine ⟨host.log, ?_⟩
  rw [List.append_nil, ← started]
  rfl

theorem comes_inform (text : String) (table : DeviceTable) :
    Comes (Procedure.inform text : Action Simulation φ Unit) table (.ok ()) table [] := by
  intro host requests started
  refine ⟨host.log ++ [⟨.info, text⟩], ?_⟩
  rw [List.append_nil, ← started]
  rfl

theorem Comes.bind {work : Action Simulation φ α} {next : α → Action Simulation φ β} {value : α}
    {result : Except Fault β} {asked more : List LinkRequest}
    (first : Comes work table (.ok value) middle asked)
    (second : Comes (next value) middle result after more) :
    Comes (work >>= next) table result after (asked ++ more) := by
  intro host requests started
  obtain ⟨log, done⟩ := first host requests started
  obtain ⟨last, ended⟩ := second { host with links := obedient middle (requests ++ asked), log }
    (requests ++ asked) rfl
  refine ⟨last, ?_⟩
  rw [Procedure.outcome_bind_ok done, ended, List.append_assoc]

private theorem Comes.bind_error {work : Action Simulation φ α} {fault : Fault}
    {asked : List LinkRequest} (first : Comes work table (.error fault) after asked)
    (next : α → Action Simulation φ β) :
    Comes (work >>= next) table (.error fault) after asked := by
  intro host requests started
  obtain ⟨log, failed⟩ := first host requests started
  exact ⟨log, Procedure.outcome_bind_error failed next⟩

theorem comes_ask {request : LinkRequest} {result : Except Fault request.Answer}
    (answered : DeviceTable.answer request table = (result, after)) :
    Comes (Procedure.ask Simulation.answer request : Action Simulation φ request.Answer) table
      result after [request] := by
  intro host requests started
  refine ⟨host.log, ?_⟩
  have reply : Simulation.answer request (obedient table requests) =
      (result, obedient after (requests ++ [request])) := by
    simp [Simulation.answer, obedient, PlannedFailure.apply, answered]
  rw [Procedure.outcome_ask, started, reply]

theorem comes_requireIndex {name : String} {device : Device}
    (found : table.find? none name = some device) (context : String) :
    Comes (requireIndex Simulation.answer context name : Action Simulation φ Nat) table
      (.ok device.index) table [.indexOf name] := by
  have answered : DeviceTable.answer (.indexOf name) table = (.ok (some device.index), table) := by
    rw [DeviceTable.answer, found]
    rfl
  exact (comes_ask answered).bind (comes_pure _ _)

theorem comes_requireIndex_missing {name : String} (unknown : table.find? none name = none)
    (context : String) :
    Comes (requireIndex Simulation.answer context name : Action Simulation φ Nat) table
      (.error (missing context name)) table [.indexOf name] := by
  have answered : DeviceTable.answer (.indexOf name) table = (.ok none, table) := by
    rw [DeviceTable.answer, unknown]
    rfl
  exact (comes_ask answered).bind (comes_throw _ _)

private theorem change_of_device? {index : Nat} {device : Device}
    (known : table.device? index = some device) (change : Device → Device) :
    table.change index change = (.ok (), table.adjust index change) := by
  rw [DeviceTable.change, known]

end Rules

section Shared

variable {topology : Topology} {table : DeviceTable}

/-- The bridge, as it is once it is created and finished. -/
def finishedBridge (topology : Topology) (number : Nat) (address : Cidr) : Device :=
  { Device.fresh number topology.bridge .bridge with up := true, addresses := [address] }

/-- The overlay device, as it is once it is created and finished. -/
def finishedVxlan (topology : Topology) (number carrier : Nat) : Device :=
  { Device.fresh number topology.vxlan.name (.vxlan topology.vxlan carrier) with up := true }

theorem comes_ensureBridge {bridge : Device}
    (found : table.find? none topology.bridge = some bridge) (address : Cidr) :
    Comes (topology.ensureBridge Simulation.answer address : Action Simulation φ Unit) table
      (.ok ()) table [.indexOf topology.bridge] := by
  have answered : DeviceTable.answer (.indexOf topology.bridge) table =
      (.ok (some bridge.index), table) := by
    rw [DeviceTable.answer, found]
    rfl
  exact (comes_ask answered).bind (comes_pure _ _)

theorem comes_ensureBridge_missing (numbered : Numbered table)
    (unknown : table.find? none topology.bridge = none) (address : Cidr) :
    Comes (topology.ensureBridge Simulation.answer address : Action Simulation φ Unit) table
      (.ok ()) (table.extend [topology.finishedBridge (table.used + 1) address] (table.used + 1))
      [.indexOf topology.bridge, .createBridge topology.bridge, .indexOf topology.bridge,
        .setUp (table.used + 1), .addAddress (table.used + 1) address] := by
  have looked : DeviceTable.answer (.indexOf topology.bridge) table = (.ok none, table) := by
    rw [DeviceTable.answer, unknown]
    rfl
  have created : DeviceTable.answer (.createBridge topology.bridge) table =
      (.ok (), table.add topology.bridge .bridge) := by
    simp [DeviceTable.answer, unknown]
  let fresh := Device.fresh (table.used + 1) topology.bridge .bridge
  let enabled := { fresh with up := true }
  have found : (table.extend [fresh] (table.used + 1)).find? none topology.bridge = some fresh :=
    DeviceTable.find?_add_self unknown .bridge
  have freshAbove : table.used < fresh.index := Nat.lt_succ_self _
  have enabledAbove : table.used < enabled.index := Nat.lt_succ_self _
  have raised : DeviceTable.answer (.setUp fresh.index) (table.extend [fresh] (table.used + 1)) =
      (.ok (), table.extend [enabled] (table.used + 1)) :=
    change_single numbered freshAbove _ _
  have addressed : DeviceTable.answer (.addAddress fresh.index address)
      (table.extend [enabled] (table.used + 1)) =
      (.ok (), table.extend [topology.finishedBridge (table.used + 1) address]
        (table.used + 1)) :=
    change_single numbered enabledAbove _ _
  exact (comes_ask looked).bind ((comes_ask created).bind ((comes_requireIndex found _).bind
    ((comes_ask raised).bind ((comes_ask addressed).bind (comes_inform _ _)))))

theorem comes_ensureVxlan {vxlan : Device}
    (found : table.find? none topology.vxlan.name = some vxlan) (uplink : String) :
    Comes (topology.ensureVxlan Simulation.answer uplink : Action Simulation φ Unit) table
      (.ok ()) table [.indexOf topology.vxlan.name] := by
  have looked : DeviceTable.answer (.indexOf topology.vxlan.name) table =
      (.ok (some vxlan.index), table) := by
    rw [DeviceTable.answer, found]
    rfl
  exact (comes_ask looked).bind (comes_pure _ _)

theorem comes_ensureVxlan_missing (numbered : Numbered table)
    (unknown : table.find? none topology.vxlan.name = none) {uplink : String} {carrier : Device}
    (carried : table.find? none uplink = some carrier) :
    Comes (topology.ensureVxlan Simulation.answer uplink : Action Simulation φ Unit) table
      (.ok ())
      (table.extend [topology.finishedVxlan (table.used + 1) carrier.index] (table.used + 1))
      [.indexOf topology.vxlan.name, .indexOf uplink,
        .createVxlan topology.vxlan carrier.index, .indexOf topology.vxlan.name,
        .setUp (table.used + 1)] := by
  have looked : DeviceTable.answer (.indexOf topology.vxlan.name) table = (.ok none, table) := by
    rw [DeviceTable.answer, unknown]
    rfl
  have created : DeviceTable.answer (.createVxlan topology.vxlan carrier.index) table =
      (.ok (), table.add topology.vxlan.name (.vxlan topology.vxlan carrier.index)) := by
    simp [DeviceTable.answer, unknown]
  let fresh := Device.fresh (table.used + 1) topology.vxlan.name
    (.vxlan topology.vxlan carrier.index)
  have found : (table.extend [fresh] (table.used + 1)).find? none topology.vxlan.name =
      some fresh :=
    DeviceTable.find?_add_self unknown _
  have raised : DeviceTable.answer (.setUp fresh.index) (table.extend [fresh] (table.used + 1)) =
      (.ok (), table.extend [topology.finishedVxlan (table.used + 1) carrier.index]
        (table.used + 1)) :=
    change_single numbered (Nat.lt_succ_self _) _ _
  exact (comes_ask looked).bind ((comes_requireIndex carried _).bind ((comes_ask created).bind
    ((comes_requireIndex found _).bind ((comes_ask raised).bind (comes_inform _ _)))))

end Shared

section Enslaving

variable {topology : Topology} {table : DeviceTable} {bridge device : Device}

/-- The requests that make a device belong to the bridge: none, if it does already. -/
def joinRequests (device bridge : Device) : List LinkRequest :=
  if device.master = some bridge.index then [] else [.setMaster device.index bridge.index]

theorem comes_enslave (numbered : Numbered table)
    (bridgeFound : table.find? none topology.bridge = some bridge)
    (known : table.device? device.index = some device) :
    Comes (topology.enslave Simulation.answer device.index : Action Simulation φ Unit) table
      (.ok ())
      (table.adjust device.index fun other => { other with master := some bridge.index })
      ([.indexOf topology.bridge, .masterOf device.index] ++ joinRequests device bridge) := by
  have member : device ∈ table.devices := List.mem_of_find?_eq_some known
  have asked : DeviceTable.answer (.masterOf device.index) table = (.ok device.master, table) := by
    rw [DeviceTable.answer, known]
  have joined : Comes (if device.master = some bridge.index then pure ()
      else Procedure.ask Simulation.answer (.setMaster device.index bridge.index) :
        Action Simulation φ Unit) table (.ok ())
      (table.adjust device.index fun other => { other with master := some bridge.index })
      (joinRequests device bridge) := by
    by_cases already : device.master = some bridge.index
    · have same : table.adjust device.index
          (fun other => { other with master := some bridge.index }) = table := by
        apply DeviceTable.adjust_of_unchanged
        intro other otherMember sameIndex
        obtain rfl := numbered.distinct other otherMember device member sameIndex
        rw [← already]
      rw [if_pos already, joinRequests, if_pos already, same]
      exact comes_pure () table
    · rw [if_neg already, joinRequests, if_neg already]
      exact comes_ask (change_of_device? known _)
  exact (comes_requireIndex bridgeFound _).bind ((comes_ask asked).bind joined)

end Enslaving

section Pair

variable {topology : Topology} {table : DeviceTable} {wiring : Wiring}

/-- The end of a container's pair that stays on the host, once it is finished. -/
def hostEnd (attachment : Device.Attachment) (number bridge : Nat) : Device :=
  { Device.fresh number attachment.names.host (.pair (number + 1)) with
    up := true, master := some bridge }

/-- The end of a container's pair that is inside the container, once it is finished. -/
def containerEnd (wiring : Wiring) (number : Nat) : Device :=
  { Device.fresh (number + 1) wiring.attachment.interfaceName (.pair number) with
    holder := some ⟨wiring.attachment.namespacePath⟩
    up := true
    addresses := [wiring.containerCidr]
    gateway := some wiring.bridgeCidr.address }

/-- Whether the names of an attachment's devices are not in use: those on the host, and the one in
the container. -/
structure Vacant (attachment : Device.Attachment) (table : DeviceTable) : Prop where
  host : table.find? none attachment.names.host = none
  transient : table.find? none attachment.names.transient = none
  interface : table.find? (some ⟨attachment.namespacePath⟩) attachment.interfaceName = none

/-- The end on the host, as it is created. -/
def freshHostEnd (attachment : Device.Attachment) (number : Nat) : Device :=
  Device.fresh number attachment.names.host (.pair (number + 1))

/-- The end in the container, as it is moved there. -/
def movedEnd (attachment : Device.Attachment) (number : Nat) : Device :=
  { Device.fresh (number + 1) attachment.interfaceName (.pair number) with
    holder := some ⟨attachment.namespacePath⟩, up := true }

theorem comes_createPair (numbered : Numbered table) (vacant : Vacant wiring.attachment table) :
    Comes (createPair Simulation.answer ⟨wiring.attachment.namespacePath⟩
        wiring.attachment.interfaceName wiring.attachment.names : Action Simulation φ Unit) table
      (.ok ())
      (table.extend [freshHostEnd wiring.attachment (table.used + 1),
        movedEnd wiring.attachment (table.used + 1)] (table.used + 2))
      [.createPair wiring.attachment.names.host wiring.attachment.names.transient,
        .indexOf wiring.attachment.names.transient,
        .moveInto (table.used + 2) ⟨wiring.attachment.namespacePath⟩
          wiring.attachment.interfaceName] := by
  let first := freshHostEnd wiring.attachment (table.used + 1)
  let second := Device.fresh (table.used + 2) wiring.attachment.names.transient
    (.pair (table.used + 1))
  have created : DeviceTable.answer
      (.createPair wiring.attachment.names.host wiring.attachment.names.transient) table =
      (.ok (), table.extend [first, second] (table.used + 2)) := by
    have free : ¬ ((table.find? none wiring.attachment.names.host).isSome ||
        (table.find? none wiring.attachment.names.transient).isSome) = true := by
      simp [vacant.host, vacant.transient]
    rw [DeviceTable.answer, if_neg free, DeviceTable.add_eq_extend, DeviceTable.add_eq_extend,
      DeviceTable.extend_extend]
    rfl
  have found : (table.extend [first, second] (table.used + 2)).find? none
      wiring.attachment.names.transient = some second := by
    rw [DeviceTable.find?_extend, vacant.transient, Option.none_or]
    simp [first, second, freshHostEnd, Device.fresh, Device.host_ne_transient]
  have firstIndex : first.index = table.used + 1 := rfl
  have secondIndex : second.index = table.used + 2 := rfl
  have moved : DeviceTable.answer
      (.moveInto second.index ⟨wiring.attachment.namespacePath⟩ wiring.attachment.interfaceName)
      (table.extend [first, second] (table.used + 2)) =
      (.ok (), table.extend [first, movedEnd wiring.attachment (table.used + 1)]
        (table.used + 2)) :=
    change_second numbered firstIndex secondIndex _ _
  exact (comes_ask created).bind ((comes_requireIndex found _).bind ((comes_ask moved).bind
    (comes_inform _ _)))

/-- A pair cannot be created while one of its names is in use. -/
theorem comes_createPair_taken {device : Device} {names : Device.Names}
    (taken : table.find? none names.host = some device) (target : Path) (interface : String) :
    Comes (createPair Simulation.answer target interface names : Action Simulation φ Unit) table
      (.error (.rejected "Failure creating veth" "File exists")) table
      [.createPair names.host names.transient] := by
  have refused : DeviceTable.answer (.createPair names.host names.transient) table =
      (.error (.rejected "Failure creating veth" "File exists"), table) := by
    simp [DeviceTable.answer, taken]
  exact (comes_ask refused).bind_error _

theorem comes_configureContainer (numbered : Numbered table)
    (vacant : Vacant wiring.attachment table) {first : Device}
    (firstIndex : first.index = table.used + 1) (onHost : first.holder = none) :
    Comes (configureContainer Simulation.answer ⟨wiring.attachment.namespacePath⟩
        wiring.attachment.interfaceName wiring.containerCidr wiring.bridgeCidr :
          Action Simulation φ Unit)
      (table.extend [first, movedEnd wiring.attachment (table.used + 1)] (table.used + 2)) (.ok ())
      (table.extend [first, containerEnd wiring (table.used + 1)] (table.used + 2))
      [.configureIn ⟨wiring.attachment.namespacePath⟩ wiring.attachment.interfaceName
        wiring.containerCidr wiring.bridgeCidr.address] := by
  have found : (table.extend [first, movedEnd wiring.attachment (table.used + 1)]
      (table.used + 2)).find? (some ⟨wiring.attachment.namespacePath⟩)
        wiring.attachment.interfaceName = some (movedEnd wiring.attachment (table.used + 1)) := by
    rw [DeviceTable.find?_extend, vacant.interface, Option.none_or]
    simp [Device.isHeldBy, onHost, movedEnd, Device.fresh]
  have configured : DeviceTable.answer
      (.configureIn ⟨wiring.attachment.namespacePath⟩ wiring.attachment.interfaceName
        wiring.containerCidr wiring.bridgeCidr.address)
      (table.extend [first, movedEnd wiring.attachment (table.used + 1)] (table.used + 2)) =
      (.ok (), table.extend [first, containerEnd wiring (table.used + 1)] (table.used + 2)) := by
    simp only [DeviceTable.answer, found]
    exact change_second numbered firstIndex rfl _ _
  exact (comes_ask configured).bind (comes_inform _ _)

theorem comes_enableAndEnslave (numbered : Numbered table)
    (vacant : Vacant wiring.attachment table) {bridge second : Device}
    (bridgeFound : table.find? none topology.bridge = some bridge)
    (secondIndex : second.index = table.used + 2) :
    Comes (topology.enableAndEnslave Simulation.answer wiring.attachment.names.host :
        Action Simulation φ Unit)
      (table.extend [freshHostEnd wiring.attachment (table.used + 1), second] (table.used + 2))
      (.ok ())
      (table.extend [hostEnd wiring.attachment (table.used + 1) bridge.index, second]
        (table.used + 2))
      [.indexOf wiring.attachment.names.host, .setUp (table.used + 1),
        .indexOf topology.bridge, .masterOf (table.used + 1),
        .setMaster (table.used + 1) bridge.index] := by
  let first := freshHostEnd wiring.attachment (table.used + 1)
  let enabled := { first with up := true }
  have found : (table.extend [first, second] (table.used + 2)).find? none
      wiring.attachment.names.host = some first := by
    rw [DeviceTable.find?_extend, vacant.host, Option.none_or]
    simp [first, freshHostEnd, Device.fresh]
  have raised : DeviceTable.answer (.setUp first.index)
      (table.extend [first, second] (table.used + 2)) =
      (.ok (), table.extend [enabled, second] (table.used + 2)) :=
    change_first numbered rfl secondIndex _ _
  have enabledIndex : enabled.index = table.used + 1 := rfl
  have joined := comes_enslave (φ := φ) (numbered.extend_pair enabledIndex secondIndex)
    (DeviceTable.find?_extend_of_some bridgeFound _ _) (device?_first numbered enabledIndex _)
  have enslaved : (table.extend [enabled, second] (table.used + 2)).adjust enabled.index
      (fun device => { device with master := some bridge.index }) =
      table.extend [hostEnd wiring.attachment (table.used + 1) bridge.index, second]
        (table.used + 2) :=
    adjust_first numbered rfl secondIndex _ _
  rw [enslaved] at joined
  exact (comes_requireIndex found _).bind ((comes_ask raised).bind joined)

/-- The table behind a container that is connected: its pair is added, and the overlay device
belongs to the bridge. -/
def connected (wiring : Wiring) (bridge vxlan : Device) (table : DeviceTable) : DeviceTable :=
  (table.adjust vxlan.index fun device => { device with master := some bridge.index }).extend
    [hostEnd wiring.attachment (table.used + 1) bridge.index,
      containerEnd wiring (table.used + 1)] (table.used + 2)

/-- The overlay device is left as it is if it belongs to the bridge already. -/
theorem connected_of_joined {bridge vxlan : Device} (numbered : Numbered table)
    (member : vxlan ∈ table.devices) (joined : vxlan.master = some bridge.index) :
    connected wiring bridge vxlan table =
      table.extend [hostEnd wiring.attachment (table.used + 1) bridge.index,
        containerEnd wiring (table.used + 1)] (table.used + 2) := by
  have unchanged : (table.adjust vxlan.index fun device =>
      { device with master := some bridge.index }) = table := by
    apply DeviceTable.adjust_of_unchanged
    intro device there same
    obtain rfl := numbered.distinct device there vxlan member same
    rw [← joined]
  exact congrArg (fun table => DeviceTable.extend table _ _) unchanged

/-- The requests that connect a container. -/
def connectRequests (topology : Topology) (wiring : Wiring) (bridge vxlan : Device)
    (number : Nat) : List LinkRequest :=
  [.createPair wiring.attachment.names.host wiring.attachment.names.transient,
    .indexOf wiring.attachment.names.transient,
    .moveInto (number + 1) ⟨wiring.attachment.namespacePath⟩ wiring.attachment.interfaceName,
    .configureIn ⟨wiring.attachment.namespacePath⟩ wiring.attachment.interfaceName
      wiring.containerCidr wiring.bridgeCidr.address,
    .indexOf wiring.attachment.names.host, .setUp number, .indexOf topology.bridge,
    .masterOf number, .setMaster number bridge.index, .indexOf topology.vxlan.name,
    .indexOf topology.bridge, .masterOf vxlan.index] ++ joinRequests vxlan bridge

theorem comes_connect (numbered : Numbered table) (vacant : Vacant wiring.attachment table)
    {bridge vxlan : Device} (bridgeFound : table.find? none topology.bridge = some bridge)
    (vxlanFound : table.find? none topology.vxlan.name = some vxlan) :
    Comes (topology.connect Simulation.answer wiring : Action Simulation φ Device.Names) table
      (.ok wiring.attachment.names) (connected wiring bridge vxlan table)
      (topology.connectRequests wiring bridge vxlan (table.used + 1)) := by
  let last := table.extend [hostEnd wiring.attachment (table.used + 1) bridge.index,
    containerEnd wiring (table.used + 1)] (table.used + 2)
  have lastNumbered : Numbered last := numbered.extend_pair rfl rfl
  have lastFound : last.find? none topology.vxlan.name = some vxlan :=
    DeviceTable.find?_extend_of_some vxlanFound _ _
  have joined := comes_enslave (φ := φ) lastNumbered
    (DeviceTable.find?_extend_of_some bridgeFound _ _) (device?_of_find? lastNumbered lastFound)
  have earlier : vxlan.index ≤ table.used :=
    numbered.bounded vxlan (DeviceTable.of_find? vxlanFound).1
  rw [adjust_earlier rfl rfl earlier] at joined
  have shared : Comes (topology.enslaveVxlan Simulation.answer : Action Simulation φ Unit) last
      (.ok ()) (connected wiring bridge vxlan table)
      ([.indexOf topology.vxlan.name] ++
        ([.indexOf topology.bridge, .masterOf vxlan.index] ++ joinRequests vxlan bridge)) :=
    (comes_requireIndex lastFound _).bind joined
  have closing : Comes (do
      topology.enslaveVxlan Simulation.answer
      pure wiring.attachment.names : Action Simulation φ Device.Names) last
      (.ok wiring.attachment.names) (connected wiring bridge vxlan table)
      ([.indexOf topology.vxlan.name, .indexOf topology.bridge, .masterOf vxlan.index] ++
        joinRequests vxlan bridge) := by
    rw [← List.append_nil (_ ++ joinRequests vxlan bridge)]
    exact shared.bind (comes_pure _ _)
  exact (comes_createPair numbered vacant).bind
    ((comes_configureContainer numbered vacant rfl rfl).bind
      ((comes_enableAndEnslave numbered vacant bridgeFound rfl).bind closing))

theorem comes_connect_taken {device : Device}
    (taken : table.find? none wiring.attachment.names.host = some device) :
    Comes (topology.connect Simulation.answer wiring : Action Simulation φ Device.Names) table
      (.error (.rejected "Failure creating veth" "File exists")) table
      [.createPair wiring.attachment.names.host wiring.attachment.names.transient] :=
  (comes_createPair_taken taken _ _).bind_error _

/-- What an attachment comes to, from what its three parts come to. -/
theorem outcome_attach_of_comes {first second last : DeviceTable}
    {bridgeAsked vxlanAsked connectAsked requests : List LinkRequest}
    {result : Except Fault Device.Names} {host : Host Simulation φ} {node : Files.Node}
    (opened : Namespace.nodeAt ⟨wiring.attachment.namespacePath⟩ host.files = .ok node)
    (started : host.links = obedient table requests)
    (bridging : Comes (topology.ensureBridge Simulation.answer wiring.bridgeCidr :
      Action Simulation φ Unit) table (.ok ()) first bridgeAsked)
    (overlaying : Comes (topology.ensureVxlan Simulation.answer wiring.uplink :
      Action Simulation φ Unit) first (.ok ()) second vxlanAsked)
    (connecting : Comes (topology.connect Simulation.answer wiring :
      Action Simulation φ Device.Names) second result last connectAsked) :
    ∃ log, (topology.attach Simulation.answer wiring).outcome host =
      (result, { host with
        links := obedient last (requests ++ (bridgeAsked ++ (vxlanAsked ++ connectAsked)))
        log := log }) := by
  have whole : Comes (do
      topology.ensureBridge Simulation.answer wiring.bridgeCidr
      topology.ensureVxlan Simulation.answer wiring.uplink
      topology.connect Simulation.answer wiring : Action Simulation φ Device.Names) table
      result last (bridgeAsked ++ (vxlanAsked ++ connectAsked)) :=
    bridging.bind (overlaying.bind connecting)
  obtain ⟨log, attached⟩ := whole host requests started
  exact ⟨log, (outcome_attach opened).trans attached⟩

end Pair

section Detaching

variable {table : DeviceTable} {attachment : Device.Attachment}

theorem comes_detach (numbered : Numbered table) {device : Device}
    (found : table.find? none attachment.names.host = some device) :
    Comes (detach Simulation.answer attachment : Action Simulation φ Unit) table (.ok ())
      (table.drop (device.index :: device.kind.peer?.toList))
      [.indexOf attachment.names.host, .delete device.index] := by
  have deleted : DeviceTable.answer (.delete device.index) table =
      (.ok (), table.drop (device.index :: device.kind.peer?.toList)) := by
    simp only [DeviceTable.answer, device?_of_find? numbered found]
  exact (comes_requireIndex found _).bind ((comes_ask deleted).bind (comes_inform _ _))

theorem comes_detach_missing (unknown : table.find? none attachment.names.host = none) :
    Comes (detach Simulation.answer attachment : Action Simulation φ Unit) table
      (.error (missing "Failure deleting veth pair" attachment.names.host)) table
      [.indexOf attachment.names.host] :=
  (comes_requireIndex_missing unknown _).bind_error _

end Detaching

end OverlayNet.Topology
