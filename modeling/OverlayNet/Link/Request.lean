import OverlayNet.Host

set_option autoImplicit false

/-! # Requests about links

The overlay network asks the kernel to look up, create, change and delete network devices. A channel
answers such requests, each from a state of the links and with a new one. Nothing else is assumed of
a channel: it may fail at any time, and other processes may act between two requests. The numbers of
devices are not bounded. -/

namespace OverlayNet

/-- The settings of the device that carries the overlay between hosts. -/
structure Vxlan where
  name : String
  identifier : UInt32
  /-- The multicast group that reaches the other hosts. -/
  group : Ipv4
  port : UInt16
deriving DecidableEq, Repr

def Vxlan.usual : Vxlan where
  name := "vxsknf"
  identifier := 100
  group := .ofOctets 239 1 1 100
  port := 4789

/-- A request about links. A device is named by its number except where it says otherwise. -/
inductive LinkRequest where
  /-- The number of the device with this name on the host. -/
  | indexOf (name : String)
  /-- The number of the bridge to which a device belongs. -/
  | masterOf (index : Nat)
  | createBridge (name : String)
  | createVxlan (vxlan : Vxlan) (uplink : Nat)
  /-- Two devices joined to each other, both on the host. -/
  | createPair (name peer : String)
  /-- Moves a device into a namespace, renames it and brings it up. -/
  | moveInto (index : Nat) (target : Path) (name : String)
  | setUp (index : Nat)
  | setMaster (index master : Nat)
  | addAddress (index : Nat) (cidr : Cidr)
  /-- Gives the device with this name in a namespace its address and its default route. -/
  | configureIn (target : Path) (name : String) (cidr : Cidr) (gateway : Ipv4)
  /-- Deletes a device and, if it is one of a pair, the other one. -/
  | delete (index : Nat)
deriving DecidableEq, Repr

namespace LinkRequest

/-- What answers a request: the number of a device, if there is one, or only that it was carried
out. -/
abbrev Answer : LinkRequest → Type
  | .indexOf _ => Option Nat
  | .masterOf _ => Option Nat
  | _ => Unit

def verb : LinkRequest → String
  | .indexOf _ => "link_index"
  | .masterOf _ => "link_master"
  | .createBridge _ => "create_bridge"
  | .createVxlan _ _ => "create_vxlan"
  | .createPair _ _ => "create_veth"
  | .moveInto _ _ _ => "move_into_namespace"
  | .setUp _ => "set_up"
  | .setMaster _ _ => "set_master"
  | .addAddress _ _ => "add_address"
  | .configureIn _ _ _ _ => "configure_in_namespace"
  | .delete _ => "delete_link"

def operands : LinkRequest → List String
  | .indexOf name => [name]
  | .masterOf index => [Decimal.text index]
  | .createBridge name => [name]
  | .createVxlan vxlan uplink =>
      [vxlan.name, "vni", Decimal.text vxlan.identifier.toNat, "group", vxlan.group.text, "port",
        Decimal.text vxlan.port.toNat, "dev", Decimal.text uplink]
  | .createPair name peer => [name, peer]
  | .moveInto index target name => [Decimal.text index, target.text, name]
  | .setUp index => [Decimal.text index]
  | .setMaster index master => [Decimal.text index, Decimal.text master]
  | .addAddress index cidr => [Decimal.text index, cidr.text]
  | .configureIn target name cidr gateway => [target.text, name, cidr.text, gateway.text]
  | .delete index => [Decimal.text index]

def text (request : LinkRequest) : String :=
  " ".intercalate (request.verb :: request.operands)

/-- The answer of a channel that reports success and does nothing. -/
def emptyAnswer : (request : LinkRequest) → request.Answer
  | .indexOf _ => none
  | .masterOf _ => none
  | .createBridge _ => ()
  | .createVxlan _ _ => ()
  | .createPair _ _ => ()
  | .moveInto _ _ _ => ()
  | .setUp _ => ()
  | .setMaster _ _ => ()
  | .addAddress _ _ => ()
  | .configureIn _ _ _ _ => ()
  | .delete _ => ()

end LinkRequest

/-- How requests about links are answered from a state of the links. -/
abbrev LinkChannel (κ : Type) : Type :=
  (request : LinkRequest) → κ → Except Fault request.Answer × κ

namespace Procedure

variable {κ φ : Type}

def ask (channel : LinkChannel κ) (request : LinkRequest) : Action κ φ request.Answer := do
  let host ← get
  let (outcome, links) := channel request host.links
  set { host with links }
  ofExcept outcome

end Procedure

/-- The channel of a host without any devices: names are not found, and all other requests fail. -/
def LinkChannel.deviceless {κ : Type} : LinkChannel κ := fun request links =>
  match request with
  | .indexOf _ => (.ok none, links)
  | request => (.error (.rejected request.verb "No such device"), links)

end OverlayNet
