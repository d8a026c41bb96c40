import OverlayNet.BridgeFilter
import OverlayNet.Configuration.Network
import OverlayNet.Ledger.Allocation
import OverlayNet.Masquerade.Installation
import OverlayNet.Response.Record

set_option autoImplicit false

/-! # The life of a container's attachment

Adding a container to the overlay goes through stages and stops at the first step that fails; what
that step has done stays. Removing it deletes its own pair of devices and nothing that is shared. -/

namespace OverlayNet

/-- How far an attachment has come. -/
inductive Stage where
  | unattached
  | addressAcquired
  | topologyWired
  | natInstalled
  | ready
deriving DecidableEq, Repr

def Stage.name : Stage → String
  | .unattached => "Unattached"
  | .addressAcquired => "AddressAcquired"
  | .topologyWired => "TopologyWired"
  | .natInstalled => "NatInstalled"
  | .ready => "Ready"

def Stage.all : List Stage :=
  [.unattached, .addressAcquired, .topologyWired, .natInstalled, .ready]

/-- Arguments that the runtime passes besides the usual ones, each key once. -/
abbrev Arguments : Type := List (String × String)

namespace Arguments

/-- The arguments with a value for a key in place of an earlier one. -/
def insert (arguments : Arguments) (key value : String) : Arguments :=
  (key, value) :: arguments.filter (·.1 ≠ key)

/-- The key and the value of a segment, which is cut at its first equals sign. -/
def pair? (segment : List Char) : Option (String × String) :=
  (Text.cutFirst? '=' segment).map fun (key, value) => (String.ofList key, String.ofList value)

/-- The arguments in a text whose segments are separated by semicolons. Segments without an equals
sign are passed over, and of two segments with one key the later counts. -/
def ofText (text : String) : Arguments :=
  ((text.toList.splitOn ';').filterMap pair?).foldl
    (fun arguments (key, value) => insert arguments key value) []

end Arguments

structure Invocation where
  attachment : Device.Attachment
  arguments : Arguments
deriving DecidableEq, Repr

/-- Who the container is, for the log: its pod if the runtime names one, and else its identifier. -/
def Invocation.label (invocation : Invocation) : String :=
  let arguments := invocation.arguments
  match arguments.lookup "K8S_POD_NAMESPACE", arguments.lookup "K8S_POD_NAME" with
  | some space, some name => space ++ "/" ++ name
  | none, some name => name
  | _, none => invocation.attachment.containerId

namespace Lifecycle

variable {κ φ α : Type}

/-- Logs that an attachment has gone from one stage to another. -/
def reach (invocation : Invocation) (before after : Stage) : Action κ φ Unit :=
  Procedure.inform ("Container " ++ invocation.label ++ " (" ++
    invocation.attachment.interfaceName ++ "): " ++ before.name ++ " -> " ++ after.name)

/-- A step that is taken at a stage. If it fails the log tells which stage had been reached. -/
def stepAt (invocation : Invocation) (stage : Stage) (step : Action κ φ α) : Action κ φ α :=
  step.onFailure fun fault =>
    Procedure.record .error ("ADD for container " ++ invocation.label ++
      " failed after reaching " ++ stage.name ++ ": " ++ fault.text)

/-- The network of the cluster, the address of the container and that of the bridge. The subnets
are read and the host is prepared before an address is issued. -/
def acquireAddresses (configuration : NetworkConfiguration) (settingsRoot : Option Path) :
    Action κ φ (Cidr × Cidr × Cidr) := do
  let node ← Procedure.ofExcept configuration.nodeSubnet
  let cluster ← Procedure.ofExcept configuration.clusterSubnet
  match settingsRoot with
  | some root => BridgeFilter.enable root
  | none => pure ()
  let container ← Allocation.acquire configuration.ledger node cluster
  pure (cluster, container, Allocation.bridgeAddress node cluster)

/-- The result that is reported for an attachment. The address belongs to the interface inside the
container, and the default route goes over the bridge. -/
def report (configuration : NetworkConfiguration) (attachment : Device.Attachment)
    (names : Device.Names) (container bridge : Cidr) : Response.Result :=
  let empty := Response.Result.empty configuration.version
  let position := UInt64.ofNat empty.nextInterface
  (((empty.addInterface
    ⟨attachment.interfaceName, none, some attachment.namespacePath⟩).addInterface
    ⟨names.host, none, none⟩).addAddress
    ⟨some "4", some position, container.text, some bridge.address.text⟩).addRoute
    ⟨"0.0.0.0/0", some bridge.address.text⟩

/-- Adds a container to the overlay. The settings of the host are changed under the given root, if
one is given. -/
def add (channel : LinkChannel κ) (transport : Masquerade.Transport φ)
    (configuration : NetworkConfiguration) (settingsRoot : Option Path) (invocation : Invocation) :
    Action κ φ Response.Result := do
  let (cluster, container, bridge) ←
    stepAt invocation .unattached (acquireAddresses configuration settingsRoot)
  reach invocation .unattached .addressAcquired
  let wiring : Wiring := ⟨invocation.attachment, container, bridge, configuration.uplink⟩
  let names ←
    stepAt invocation .addressAcquired (configuration.topology.attach channel wiring)
  reach invocation .addressAcquired .topologyWired
  stepAt invocation .topologyWired
    (Masquerade.install transport configuration.uplink cluster)
  reach invocation .topologyWired .natInstalled
  reach invocation .natInstalled .ready
  pure (report configuration invocation.attachment names container bridge)

def remove (channel : LinkChannel κ) (invocation : Invocation) : Action κ φ Unit := do
  Topology.detach channel invocation.attachment
  reach invocation .ready .unattached

end Lifecycle

end OverlayNet
