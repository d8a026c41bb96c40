import OverlayNet.Fault
import OverlayNet.Json.Record

set_option autoImplicit false

/-! # Responses to the container runtime

The runtime gets one JSON document on one line: the result of an attachment, the versions that are
supported, or an error. Members without a value are left out. -/

namespace OverlayNet.Response

open Json (Codec Field Fields Record)

/-- A network interface of the result. -/
structure Interface where
  name : String
  mac : Option String
  /-- The path of the namespace that holds the interface; none on the host. -/
  sandbox : Option String
deriving DecidableEq, Repr

structure AddressEntry where
  version : Option String
  /-- The position of the interface that has the address. -/
  interface : Option UInt64
  address : String
  gateway : Option String
deriving DecidableEq, Repr

structure Route where
  destination : String
  gateway : Option String
deriving DecidableEq, Repr

structure Result where
  version : String
  interfaces : Option (List Interface)
  addresses : Option (List AddressEntry)
  routes : Option (List Route)
deriving DecidableEq, Repr

/-- The versions of the interface to the runtime that are supported. -/
structure VersionReport where
  version : String
  supported : List String
deriving DecidableEq, Repr

/-- A fault, for the runtime. -/
structure ErrorReport where
  version : String
  code : UInt32
  message : String
  details : String
deriving DecidableEq, Repr

def Interface.record : Record Interface where
  name := "Interface"
  fields :=
    .field (.required "name" .text) <| .field (.optional "mac" .text) <|
      .field (.optional "sandbox" .text) .none
  make := fun (name, mac, sandbox, ()) => ⟨name, mac, sandbox⟩
  parts interface := (interface.name, interface.mac, interface.sandbox, ())

def AddressEntry.record : Record AddressEntry where
  name := "IPConfig"
  fields :=
    .field (.optional "version" .text) <| .field (.optional "interface" .index) <|
      .field (.required "address" .text) <| .field (.optional "gateway" .text) .none
  make := fun (version, interface, address, gateway, ()) => ⟨version, interface, address, gateway⟩
  parts entry := (entry.version, entry.interface, entry.address, entry.gateway, ())

def Route.record : Record Route where
  name := "Route"
  fields := .field (.required "dst" .text) <| .field (.optional "gw" .text) .none
  make := fun (destination, gateway, ()) => ⟨destination, gateway⟩
  parts route := (route.destination, route.gateway, ())

def Result.record : Record Result where
  name := "Result"
  fields :=
    .field (.required "cniVersion" .text) <|
      .field (.optional "interfaces" (.list Interface.record.codec)) <|
        .field (.optional "ips" (.list AddressEntry.record.codec)) <|
          .field (.optional "routes" (.list Route.record.codec)) .none
  make := fun (version, interfaces, addresses, routes, ()) =>
    ⟨version, interfaces, addresses, routes⟩
  parts result := (result.version, result.interfaces, result.addresses, result.routes, ())

def VersionReport.record : Record VersionReport where
  name := "VersionResult"
  fields :=
    .field (.required "cniVersion" .text) <|
      .field (.required "supportedVersions" (.list .text)) .none
  make := fun (version, supported, ()) => ⟨version, supported⟩
  parts report := (report.version, report.supported, ())

def ErrorReport.record : Record ErrorReport where
  name := "ErrorResponse"
  fields :=
    .field (.required "cniVersion" .text) <| .field (.required "code" .word32) <|
      .field (.required "msg" .text) <| .field (.required "details" .text) .none
  make := fun (version, code, message, details, ()) => ⟨version, code, message, details⟩
  parts report := (report.version, report.code, report.message, report.details, ())

namespace Result

def empty (version : String) : Result := ⟨version, none, none, none⟩

def addInterface (result : Result) (interface : Interface) : Result :=
  { result with interfaces := some (result.interfaces.getD [] ++ [interface]) }

/-- The position of the interface that would be added next. -/
def nextInterface (result : Result) : Nat :=
  (result.interfaces.getD []).length

def addAddress (result : Result) (entry : AddressEntry) : Result :=
  { result with addresses := some (result.addresses.getD [] ++ [entry]) }

def addRoute (result : Result) (route : Route) : Result :=
  { result with routes := some (result.routes.getD [] ++ [route]) }

def primaryAddress? (result : Result) : Option String :=
  (result.addresses.getD []).head?.map AddressEntry.address

end Result

/-- A fault, for a runtime that speaks the given version. -/
def ErrorReport.ofFault (version : String) (fault : Fault) : ErrorReport :=
  ⟨version, fault.code, fault.message, fault.details⟩

/-- The line that is written for a value. -/
def line {α : Type} (codec : Codec α) (value : α) : String :=
  (codec.write value).compact ++ "\n"

/-- Where responses go: to someone who reads them, or nowhere because writing fails. -/
inductive Outlet where
  | reading
  | failing (cause : Os.Cause)
deriving DecidableEq, Repr

/-- Delivers a response. Yields the text that has been delivered. -/
def deliver {α : Type} (outlet : Outlet) (codec : Codec α) (value : α) : Except Fault String :=
  match outlet with
  | .reading => .ok (line codec value)
  | .failing cause => .error (.system "Failure writing CNI response" "stdout" cause)

end OverlayNet.Response
