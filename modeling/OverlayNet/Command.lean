import OverlayNet.Lifecycle

set_option autoImplicit false

/-! # Commands of the container runtime

The runtime starts the plugin with its command and the container in the environment and the
configuration on standard input, and reads one response from standard output. -/

namespace OverlayNet

open Response (ErrorReport Outlet VersionReport)

inductive Command where
  | add
  | delete
  | version
  /-- A command that is accepted without doing anything. -/
  | idle
deriving DecidableEq, Repr

def Command.ofName? : String → Option Command
  | "ADD" => some .add
  | "DEL" => some .delete
  | "VERSION" => some .version
  | "CHECK" => some .idle
  | "STATUS" => some .idle
  | "GC" => some .idle
  | _ => none

/-- The variable that names the file to which the log goes. -/
def Command.logVariable : String := "SKNF_LOG_FILE"

/-- The variables that say what to do, for which container, and where the log goes. -/
def Command.variables : List String :=
  ["CNI_COMMAND", "CNI_CONTAINERID", "CNI_NETNS", "CNI_IFNAME", "CNI_ARGS", Command.logVariable]

abbrev Environment : Type := List (String × String)

namespace Environment

def required (environment : Environment) (name : String) : Except Fault String :=
  match environment.lookup name with
  | some value => .ok value
  | none => .error (.missingVariable name)

def invocation (environment : Environment) : Except Fault Invocation := do
  let containerId ← environment.required "CNI_CONTAINERID"
  let namespacePath ← environment.required "CNI_NETNS"
  let interfaceName ← environment.required "CNI_IFNAME"
  let arguments := Arguments.ofText ((environment.lookup "CNI_ARGS").getD "")
  pure ⟨⟨namespacePath, interfaceName, containerId⟩, arguments⟩

end Environment

def settingsRoot : Path := ⟨"/proc/sys"⟩

def Response.VersionReport.own : VersionReport := ⟨interfaceVersion, supportedVersions⟩

namespace Command

variable {κ φ : Type}

def subject (environment : Environment) (input : Bytes) :
    Except Fault (Invocation × NetworkConfiguration) := do
  let invocation ← environment.invocation
  let configuration ← (NetworkConfiguration.parse input).mapError (·.fault)
  pure (invocation, configuration)

/-- Carries out a command and delivers its response. Yields the text that has been delivered. -/
def run (channel : LinkChannel κ) (transport : Masquerade.Transport φ) (outlet : Outlet)
    (environment : Environment) (input : Bytes) : Command → Action κ φ String
  | .add => do
      let (invocation, configuration) ← Procedure.ofExcept (subject environment input)
      let root := if configuration.bridgeFilter then some settingsRoot else none
      let result ← Lifecycle.add channel transport configuration root invocation
      Procedure.ofExcept (Response.deliver outlet Response.Result.record.codec result)
  | .delete => do
      let (invocation, _) ← Procedure.ofExcept (subject environment input)
      Lifecycle.remove channel invocation
      pure ""
  | .version =>
      Procedure.ofExcept
        (Response.deliver outlet Response.VersionReport.record.codec VersionReport.own)
  | .idle => pure ""

def dispatch (channel : LinkChannel κ) (transport : Masquerade.Transport φ) (outlet : Outlet)
    (environment : Environment) (input : Bytes) (name : String) : Action κ φ String :=
  match ofName? name with
  | some command => command.run channel transport outlet environment input
  | none => throw (.unknownCommand name)

def logFile? (environment : Environment) : Option Path :=
  (environment.lookup logVariable).map Path.mk

/-- Opens the log file, which is made if it was not there. A log file that cannot be opened is left
alone, and the log then goes elsewhere. -/
def openLog (environment : Environment) : Action κ φ Unit :=
  modify fun host =>
    match logFile? environment with
    | some path =>
        match host.files.touch path with
        | .ok files => { host with files }
        | .error _ => host
    | none => host

/-- Carries out the command that the environment names, with the log opened first. A fault is
logged. -/
def runEnvironment (channel : LinkChannel κ) (transport : Masquerade.Transport φ) (outlet : Outlet)
    (environment : Environment) (input : Bytes) : Action κ φ String :=
  Procedure.onFailure
    (do
      openLog environment
      let name ← Procedure.ofExcept (environment.required "CNI_COMMAND")
      dispatch channel transport outlet environment input name)
    fun fault => Procedure.record .error ("CNI plugin error: " ++ fault.text)

/-- The paths that a command may read or change. -/
def paths (environment : Environment) (input : Bytes) : List Path :=
  (logFile? environment).toList ++
  match subject environment input with
  | .error _ => []
  | .ok (invocation, configuration) =>
      [Namespace.ownPath, ⟨invocation.attachment.namespacePath⟩, configuration.ledger.path,
        configuration.ledger.lockPath] ++ BridgeFilter.settings.map settingsRoot.join

/-- The lock file that guards the ledger while a command runs, if the ledger is used under one. -/
def lockFile? (environment : Environment) (input : Bytes) : Option Path :=
  match environment.lookup "CNI_COMMAND", subject environment input with
  | some "ADD", .ok (_, configuration) =>
      if configuration.ledger.locked then some configuration.ledger.lockPath else none
  | _, _ => none

/-- What is written to standard output for an outcome, and the exit code. -/
def conclude : Except Fault String → String × UInt32
  | .ok text => (text, 0)
  | .error fault =>
      (Response.line ErrorReport.record.codec (.ofFault interfaceVersion fault), 1)

end Command

end OverlayNet
