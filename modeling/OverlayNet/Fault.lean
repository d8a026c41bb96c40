import OverlayNet.Address.Cidr
import OverlayNet.Os.Cause
import OverlayNet.Text.Cut

set_option autoImplicit false

/-! # Faults

Every operation that can fail fails with a fault. A fault has a full text for people, and a code, a
short message free of values and a detail with the offending value for the response to the container
runtime. -/

namespace OverlayNet

/-- Why an operation of the overlay network failed. -/
inductive Fault where
  | invalidCidr (text reason : String)
  /-- A file could not be read or written, or a device not opened. -/
  | system (context target : String) (cause : Os.Cause)
  | rejected (context reason : String)
  /-- The thread could not enter or leave a network namespace. -/
  | namespaceSwitch (context target : String) (errno : Os.Errno)
  | unknownCommand (command : String)
  | invalidConfiguration (reason : String)
  | missingVariable (name : String)
deriving DecidableEq, Repr

namespace Fault

def ofDefect (text : String) (defect : Cidr.Defect) : Fault :=
  .invalidCidr text defect.reason

def text : Fault → String
  | .invalidCidr _ reason => "Invalid CIDR: " ++ reason
  | .system context _ cause => context ++ ": " ++ cause.text
  | .rejected context reason => context ++ ": " ++ reason
  | .namespaceSwitch context _ errno => context ++ ": " ++ errno.text
  | .unknownCommand command => "Unknown CNI command: " ++ command
  | .invalidConfiguration reason => "Invalid network configuration: " ++ reason
  | .missingVariable name => name ++ " not found in environment"

/-- The code that the response carries. -/
def code : Fault → UInt32
  | .missingVariable _ => 4
  | .system _ _ _ => 5
  | .invalidCidr _ _ => 7
  | .invalidConfiguration _ => 7
  | .rejected _ _ => 100
  | .namespaceSwitch _ _ _ => 101
  | .unknownCommand _ => 102

/-- The short message, which holds no values. -/
def message : Fault → String
  | .invalidCidr _ _ => "Invalid CIDR"
  | .system context _ _ => context
  | .rejected context _ => context
  | .namespaceSwitch context _ _ => context
  | .unknownCommand _ => "Unknown CNI command"
  | .invalidConfiguration _ => "Invalid network configuration"
  | .missingVariable _ => "Missing CNI environment variable"

/-- The offending value and the reason. -/
def details : Fault → String
  | .invalidCidr text reason => "'" ++ text ++ "': " ++ reason
  | .system _ target cause => target ++ ": " ++ cause.text
  | .rejected _ reason => reason
  | .namespaceSwitch _ target errno => target ++ ": " ++ errno.description
  | .unknownCommand command => command
  | .invalidConfiguration reason => reason
  | .missingVariable name => name

/-- Whether the kernel reported that a device is missing. -/
def isNotFound : Fault → Bool
  | .rejected _ reason =>
      Text.occursIn "No such device".toList reason.toList ||
        Text.occursIn "not found".toList reason.toList
  | _ => false

/-- The text of the failure that lies behind a fault, if a fault has one: the system's cause. -/
def causeText? : Fault → Option String
  | .system _ _ cause => some cause.text
  | .namespaceSwitch _ _ errno => some errno.text
  | _ => none

end Fault

/-- The address and prefix length that a text spells, or the fault that quotes the text. -/
def Cidr.read (text : String) : Except Fault Cidr :=
  (Cidr.parse text).mapError (Fault.ofDefect text)

/-- The same address with another prefix length, or the fault that quotes the impossible pair. -/
def Cidr.pair (address : Ipv4) (prefixLength : Nat) : Except Fault Cidr :=
  (Cidr.new? address prefixLength).mapError
    (Fault.ofDefect (Cidr.textOf address prefixLength))

end OverlayNet
