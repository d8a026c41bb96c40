import OverlayNet.Device.Name
import OverlayNet.Link.Request
import OverlayNet.Namespace

set_option autoImplicit false

/-! # The topology of a host

A host has one bridge and one overlay device that belongs to it, both shared by all containers, and
a pair of devices for each container. The shared devices are created only if they are missing.
Nothing is undone when a step fails: the next attachment goes on from what is there. -/

namespace OverlayNet

structure Topology where
  bridge : String
  vxlan : Vxlan
deriving DecidableEq, Repr

/-- What is needed to attach a container. -/
structure Wiring where
  attachment : Device.Attachment
  containerCidr : Cidr
  bridgeCidr : Cidr
  /-- The physical device over which the overlay runs. -/
  uplink : String
deriving DecidableEq, Repr

namespace Topology

/-- The name of the bridge unless the configuration gives another. -/
def usualBridge : String := "brsknf"

variable {κ φ : Type}

def missing (context name : String) : Fault :=
  .rejected context (name ++ ": No such device")

/-- The number of the device with a name, which must be there. -/
def requireIndex (channel : LinkChannel κ) (context name : String) : Action κ φ Nat := do
  match ← Procedure.ask channel (.indexOf name) with
  | some index => pure index
  | none => throw (missing context name)

/-- Creates the bridge with its address, unless a device has its name. -/
def ensureBridge (topology : Topology) (channel : LinkChannel κ) (address : Cidr) :
    Action κ φ Unit := do
  match ← Procedure.ask channel (.indexOf topology.bridge) with
  | some _ => pure ()
  | none => do
      Procedure.ask channel (.createBridge topology.bridge)
      let index ← requireIndex channel "Failed to resolve ifindex for bridge" topology.bridge
      Procedure.ask channel (.setUp index)
      Procedure.ask channel (.addAddress index address)
      Procedure.inform ("Created bridge " ++ topology.bridge ++ " with address " ++ address.text)

/-- Creates the overlay device over the physical one, unless a device has its name. -/
def ensureVxlan (topology : Topology) (channel : LinkChannel κ) (uplink : String) :
    Action κ φ Unit := do
  match ← Procedure.ask channel (.indexOf topology.vxlan.name) with
  | some _ => pure ()
  | none => do
      let carrier ← requireIndex channel "Failed to resolve ifindex for uplink" uplink
      Procedure.ask channel (.createVxlan topology.vxlan carrier)
      let index ← requireIndex channel "Failed to resolve ifindex for vxlan" topology.vxlan.name
      Procedure.ask channel (.setUp index)
      Procedure.inform ("Created vxlan " ++ topology.vxlan.name ++ " (vni " ++
        Decimal.text topology.vxlan.identifier.toNat ++ ") on " ++ uplink)

/-- Creates the pair of devices of a container and moves one of them into its namespace. -/
def createPair (channel : LinkChannel κ) (target : Path) (interface : String)
    (names : Device.Names) : Action κ φ Unit := do
  Procedure.ask channel (.createPair names.host names.transient)
  let peer ← requireIndex channel "Failed to resolve ifindex for transient veth" names.transient
  Procedure.ask channel (.moveInto peer target interface)
  Procedure.inform ("Created veth " ++ names.host ++ " and moved peer into " ++ target.text ++
    " as " ++ interface)

/-- Gives the container's device its address, and a default route over the bridge. -/
def configureContainer (channel : LinkChannel κ) (target : Path) (interface : String)
    (containerCidr bridgeCidr : Cidr) : Action κ φ Unit := do
  Procedure.ask channel (.configureIn target interface containerCidr bridgeCidr.address)
  Procedure.inform ("Configured " ++ interface ++ " in " ++ target.text ++ " with " ++
    containerCidr.text ++ " via " ++ bridgeCidr.address.text)

/-- Makes a device belong to the bridge, unless it does already. -/
def enslave (topology : Topology) (channel : LinkChannel κ) (index : Nat) : Action κ φ Unit := do
  let bridge ←
    requireIndex channel "Failure filling bridge information from kernel" topology.bridge
  let master ← Procedure.ask channel (.masterOf index)
  if master = some bridge then pure ()
  else Procedure.ask channel (.setMaster index bridge)

/-- Brings a device up and makes it belong to the bridge. -/
def enableAndEnslave (topology : Topology) (channel : LinkChannel κ) (name : String) :
    Action κ φ Unit := do
  let index ← requireIndex channel "Failure filling rtnl_link information from kernel" name
  Procedure.ask channel (.setUp index)
  topology.enslave channel index

/-- Makes the overlay device belong to the bridge. -/
def enslaveVxlan (topology : Topology) (channel : LinkChannel κ) : Action κ φ Unit := do
  let index ←
    requireIndex channel "Failure filling vxlan information from kernel" topology.vxlan.name
  topology.enslave channel index

/-- Attaches a container. Once this succeeds the container can be reached. -/
def attach (topology : Topology) (channel : LinkChannel κ) (wiring : Wiring) :
    Action κ φ Device.Names := do
  let names := wiring.attachment.names
  let interface := wiring.attachment.interfaceName
  let handle ← Namespace.openAt ⟨wiring.attachment.namespacePath⟩
  topology.ensureBridge channel wiring.bridgeCidr
  topology.ensureVxlan channel wiring.uplink
  createPair channel handle.path interface names
  configureContainer channel handle.path interface wiring.containerCidr wiring.bridgeCidr
  topology.enableAndEnslave channel names.host
  topology.enslaveVxlan channel
  pure names

/-- Detaches a container by deleting its pair of devices, wherever the other one is. The shared
devices stay. -/
def detach (channel : LinkChannel κ) (attachment : Device.Attachment) : Action κ φ Unit := do
  let host := attachment.names.host
  let index ← requireIndex channel "Failure deleting veth pair" host
  Procedure.ask channel (.delete index)
  Procedure.inform ("Deleted veth pair " ++ host)

end Topology

end OverlayNet
