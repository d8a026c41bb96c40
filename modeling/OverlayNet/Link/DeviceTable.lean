import OverlayNet.Link.Request

set_option autoImplicit false

/-! # A table of devices

The links of a host as a table in memory. It answers requests about links as the kernel does: names
are looked up among the devices of the host, and a device that is missing is reported. Each new
device gets the next number, and the table never runs out of numbers. -/

namespace OverlayNet

inductive DeviceKind where
  | physical
  | bridge
  | vxlan (settings : Vxlan) (uplink : Nat)
  /-- One of two devices that are joined; the other has this number. -/
  | pair (peer : Nat)
deriving DecidableEq, Repr

def DeviceKind.text : DeviceKind → String
  | .physical => "physical"
  | .bridge => "bridge"
  | .vxlan settings uplink =>
      " ".intercalate ["vxlan vni", Decimal.text settings.identifier.toNat, "group",
        settings.group.text, "port", Decimal.text settings.port.toNat, "dev", Decimal.text uplink]
  | .pair _ => "veth"

def DeviceKind.peer? : DeviceKind → Option Nat
  | .pair peer => some peer
  | _ => none

structure Device where
  index : Nat
  name : String
  kind : DeviceKind
  /-- The namespace that holds the device; none for the host. -/
  holder : Option Path
  up : Bool
  master : Option Nat
  addresses : List Cidr
  gateway : Option Ipv4
deriving DecidableEq, Repr

/-- A device that has just been created on the host. -/
def Device.fresh (index : Nat) (name : String) (kind : DeviceKind) : Device where
  index := index
  name := name
  kind := kind
  holder := none
  up := false
  master := none
  addresses := []
  gateway := none

/-- Whether a device is in a namespace, or on the host. Two paths with the same components name the
same namespace. -/
def Device.isHeldBy (device : Device) (holder : Option Path) : Bool :=
  device.holder.map Path.components = holder.map Path.components

/-- The devices, in the order of their numbers, and how many numbers have been used. -/
structure DeviceTable where
  devices : List Device
  used : Nat
deriving DecidableEq, Repr

namespace DeviceTable

def empty : DeviceTable := ⟨[], 0⟩

def add (table : DeviceTable) (name : String) (kind : DeviceKind) : DeviceTable :=
  ⟨table.devices ++ [Device.fresh (table.used + 1) name kind], table.used + 1⟩

/-- The first device with this name in a namespace, or on the host. -/
def find? (table : DeviceTable) (holder : Option Path) (name : String) : Option Device :=
  table.devices.find? fun device => device.isHeldBy holder && device.name = name

/-- The device with this number. -/
def device? (table : DeviceTable) (index : Nat) : Option Device :=
  table.devices.find? fun device => device.index = index

/-- The table with the device of a number changed. -/
def adjust (table : DeviceTable) (index : Nat) (change : Device → Device) : DeviceTable :=
  { table with
    devices := table.devices.map fun device =>
      if device.index = index then change device else device }

def drop (table : DeviceTable) (indices : List Nat) : DeviceTable :=
  { table with devices := table.devices.filter fun device => device.index ∉ indices }

def unknownIndex (context : String) (index : Nat) : Fault :=
  .rejected context ("ifindex " ++ Decimal.text index ++ ": No such device")

def unknownName (context name : String) : Fault :=
  .rejected context (name ++ ": No such device")

/-- Changes the device of a number, which must be there. -/
def change (table : DeviceTable) (index : Nat) (adjustment : Device → Device) :
    Except Fault Unit × DeviceTable :=
  match table.device? index with
  | none => (.error (unknownIndex "Fake kernel" index), table)
  | some _ => (.ok (), table.adjust index adjustment)

/-- The answer to a request, and the table behind it. -/
def answer : LinkChannel DeviceTable := fun request table =>
  match request with
  | .indexOf name => (.ok ((table.find? none name).map Device.index), table)
  | .masterOf index =>
      match table.device? index with
      | none => (.error (unknownIndex "Fake kernel" index), table)
      | some device => (.ok device.master, table)
  | .createBridge name =>
      (.ok (), if (table.find? none name).isSome then table else table.add name .bridge)
  | .createVxlan vxlan uplink =>
      (.ok (),
        if (table.find? none vxlan.name).isSome then table
        else table.add vxlan.name (.vxlan vxlan uplink))
  | .createPair name peer =>
      if (table.find? none name).isSome || (table.find? none peer).isSome then
        (.error (.rejected "Failure creating veth" "File exists"), table)
      else
        (.ok (),
          (table.add name (.pair (table.used + 2))).add peer (.pair (table.used + 1)))
  | .moveInto index target name =>
      table.change index fun device => { device with holder := some target, name, up := true }
  | .setUp index => table.change index fun device => { device with up := true }
  | .setMaster index master =>
      table.change index fun device => { device with master := some master }
  | .addAddress index cidr =>
      table.change index fun device => { device with addresses := device.addresses ++ [cidr] }
  | .configureIn target name cidr gateway =>
      match table.find? (some target) name with
      | none => (.error (unknownName "Fake kernel" name), table)
      | some found =>
          table.change found.index fun device =>
            { device with addresses := device.addresses ++ [cidr], gateway := some gateway }
  | .delete index =>
      match table.device? index with
      | none => (.error (unknownIndex "Failure deleting link" index), table)
      | some device => (.ok (), table.drop (index :: device.kind.peer?.toList))

end DeviceTable

end OverlayNet
