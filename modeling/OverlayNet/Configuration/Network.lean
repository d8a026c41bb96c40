import OverlayNet.Device.Name
import OverlayNet.Json.Record
import OverlayNet.Ledger.File
import OverlayNet.Link.Request
import OverlayNet.Topology

set_option autoImplicit false

/-! # The network configuration

The runtime hands the configuration of the network to the plugin as a JSON document. A configuration
is usable if its version is supported, the names of devices fit, the identifier of the overlay has
24 bits and both subnets can be read; whatever is read as a configuration is usable. -/

namespace OverlayNet

open Json (Codec Field Fields Record)

def interfaceVersion : String := "1.0.0"

def supportedVersions : List String := [interfaceVersion]

def greatestIdentifier : UInt32 := 0xFFFFFF

structure NetworkConfiguration where
  version : String
  name : String
  pluginType : String
  /-- The subnet of this node's containers. -/
  subnet : String
  /-- The network of all containers of the cluster. -/
  clusterCidr : String
  uplink : String
  bridge : String
  vxlan : Vxlan
  ledger : Ledger
  /-- Whether bridged traffic is to pass the packet filter. -/
  bridgeFilter : Bool
deriving DecidableEq, Repr

/-- The ledger unless the configuration describes another. -/
def Ledger.usual : Ledger := ⟨Ledger.usualPath, false⟩

def Path.codec : Codec Path :=
  Codec.path.transport Path.mk Path.text

def Vxlan.record : Record Vxlan where
  name := "VxlanConf"
  fields :=
    .field (.defaulted "name" .text Vxlan.usual.name) <|
      .field (.defaulted "vni" .word32 Vxlan.usual.identifier) <|
        .field (.defaulted "group" .address Vxlan.usual.group) <|
          .field (.defaulted "port" .word16 Vxlan.usual.port) .none
  make := fun (name, identifier, group, port, ()) => ⟨name, identifier, group, port⟩
  parts vxlan := (vxlan.name, vxlan.identifier, vxlan.group, vxlan.port, ())

def Ledger.record : Record Ledger where
  name := "LedgerConf"
  fields :=
    .field (.defaulted "path" Path.codec Ledger.usual.path) <|
      .field (.defaulted "lock" .boolean Ledger.usual.locked) .none
  make := fun (path, locked, ()) => ⟨path, locked⟩
  parts ledger := (ledger.path, ledger.locked, ())

namespace NetworkConfiguration

def record : Record NetworkConfiguration where
  name := "NetConf"
  fields :=
    .field (.required "cniVersion" .text) <| .field (.required "name" .text) <|
      .field (.required "type" .text) <| .field (.required "subnet" .text) <|
        .field (.required "clusterCidr" .text) <|
          .field (.required "hostPhysicalInterface" .text) <|
            .field (.defaulted "bridge" .text Topology.usualBridge) <|
              .field (.defaulted "vxlan" Vxlan.record.codec Vxlan.usual) <|
                .field (.defaulted "ledger" Ledger.record.codec Ledger.usual) <|
                  .field (.defaulted "brNetfilter" .boolean false) .none
  make := fun (version, name, pluginType, subnet, clusterCidr, uplink, bridge, vxlan, ledger,
      bridgeFilter, ()) =>
    ⟨version, name, pluginType, subnet, clusterCidr, uplink, bridge, vxlan, ledger, bridgeFilter⟩
  parts configuration :=
    (configuration.version, configuration.name, configuration.pluginType, configuration.subnet,
      configuration.clusterCidr, configuration.uplink, configuration.bridge, configuration.vxlan,
      configuration.ledger, configuration.bridgeFilter, ())

/-- A configuration in which everything that has a usual value has it. -/
def usual (name subnet clusterCidr uplink : String) : NetworkConfiguration where
  version := interfaceVersion
  name := name
  pluginType := "sknf"
  subnet := subnet
  clusterCidr := clusterCidr
  uplink := uplink
  bridge := Topology.usualBridge
  vxlan := .usual
  ledger := .usual
  bridgeFilter := false

/-- Why a configuration cannot be used. -/
inductive Defect where
  | unreadable (defect : Json.Defect)
  | unsupportedVersion (version : String)
  | nameEmpty (field : String)
  | nameTooLong (field name : String)
  | identifierTooGreat (identifier : UInt32)
  | subnetInvalid (text : String) (defect : Cidr.Defect)
deriving DecidableEq, Repr

def Defect.fault : Defect → Fault
  | .unreadable defect =>
      .invalidConfiguration ("Failed to parse network configuration: " ++ defect.text)
  | .unsupportedVersion version => .invalidConfiguration ("Unsupported cniVersion " ++ version)
  | .nameEmpty field => .invalidConfiguration (field ++ " must not be empty")
  | .nameTooLong field name =>
      .invalidConfiguration (field ++ " '" ++ name ++ "' is longer than " ++
        Decimal.text Device.longestName ++ " bytes")
  | .identifierTooGreat identifier =>
      .invalidConfiguration ("Invalid VNI " ++ Decimal.text identifier.toNat ++
        " (must fit in 24 bits)")
  | .subnetInvalid text defect => .ofDefect text defect

/-- Checks the name of a device: it has between one byte and the most that a name can have. -/
def checkName (field name : String) : Except Defect Unit :=
  if name.isEmpty then .error (.nameEmpty field)
  else if Device.longestName < Bytes.lengthOfText name then .error (.nameTooLong field name)
  else .ok ()

def checkSubnet (text : String) : Except Defect Unit :=
  match Cidr.parse text with
  | .ok _ => .ok ()
  | .error defect => .error (.subnetInvalid text defect)

def check (configuration : NetworkConfiguration) : Except Defect Unit := do
  if configuration.version ∉ supportedVersions then
    throw (.unsupportedVersion configuration.version)
  checkName "hostPhysicalInterface" configuration.uplink
  checkName "bridge" configuration.bridge
  checkName "vxlan.name" configuration.vxlan.name
  if greatestIdentifier < configuration.vxlan.identifier then
    throw (.identifierTooGreat configuration.vxlan.identifier)
  checkSubnet configuration.subnet
  checkSubnet configuration.clusterCidr

/-- The configuration that a document holds, whether or not it can be used. -/
def read (bytes : Bytes) : Except Defect NetworkConfiguration :=
  (record.codec.ofBytes bytes).mapError .unreadable

/-- The usable configuration that a document holds. -/
def parse (bytes : Bytes) : Except Defect NetworkConfiguration := do
  let configuration ← read bytes
  configuration.check
  pure configuration

def json (configuration : NetworkConfiguration) : Json :=
  record.codec.write configuration

def nodeSubnet (configuration : NetworkConfiguration) : Except Fault Cidr :=
  Cidr.read configuration.subnet

def clusterSubnet (configuration : NetworkConfiguration) : Except Fault Cidr :=
  Cidr.read configuration.clusterCidr

/-- The shared devices that a configuration describes. -/
def topology (configuration : NetworkConfiguration) : Topology :=
  ⟨configuration.bridge, configuration.vxlan⟩

end NetworkConfiguration

end OverlayNet
