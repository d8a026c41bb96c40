import OverlayNet.Ledger.Allocation
import OverlayNet.Operator.Request

set_option autoImplicit false

/-! # Sessions of the operator

A request is carried out on the host and prints lines. What has been printed before a failure stays
printed. A failure is reported with all its causes. -/

namespace OverlayNet.Operator

inductive Failure where
  /-- The configuration that would be generated cannot be used. -/
  | generatedInvalid (defect : NetworkConfiguration.Defect)
  | configurationNotSaved (path : Path) (cause : Os.Cause)
  | templateNotRead (path : Path) (cause : Os.Cause)
  /-- Without a template the options for a usual configuration must be given. -/
  | templateUnspecified
  | installation (failure : Installation.Failure)
  | fault (fault : Fault)
deriving DecidableEq, Repr

/-- The texts of a fault and of what lies behind it. -/
def faultChain (fault : Fault) : List String :=
  fault.text :: fault.causeText?.toList

/-- The wording of a failure, followed by those of its causes. -/
def Failure.chain : Failure → List String
  | .generatedInvalid defect => "Generated configuration is invalid" :: faultChain defect.fault
  | .configurationNotSaved path cause =>
      ["Failed to write network configuration to " ++ path.text, cause.text]
  | .templateNotRead path cause =>
      ["Failure opening CNI plugin conf template from " ++ path.text, cause.text]
  | .templateUnspecified => ["--cluster-cidr and --uplink are required without --template"]
  | .installation cause => cause.chain
  | .fault cause => faultChain cause

/-- A text with further lines indented as much as the first. -/
def indented (start further text : String) : String :=
  start ++ ("\n" ++ further).intercalate ((text.toList.splitOn '\n').map String.ofList)

/-- The report of a failure: its own text and, below, its causes, numbered if there are several. -/
def report : List String → String
  | [] => "Error: \n"
  | [outer] => "Error: " ++ outer ++ "\n"
  | [outer, cause] =>
      "Error: " ++ outer ++ "\n\nCaused by:\n" ++ indented "    " "    " cause ++ "\n"
  | outer :: causes =>
      "Error: " ++ outer ++ "\n\nCaused by:\n" ++
        String.join (causes.zipIdx.map fun (cause, position) =>
          indented ("    " ++ Decimal.text position ++ ": ") "       " cause ++ "\n")

/-- A host and what has been printed on it, the oldest line first. -/
structure Desk (κ φ : Type) where
  host : Host κ φ
  printed : List String

abbrev Session (κ φ α : Type) : Type :=
  ExceptT Failure (StateM (Desk κ φ)) α

namespace Session

variable {ε κ φ α : Type}

def print (line : String) : Session κ φ Unit :=
  modify fun desk => { desk with printed := desk.printed ++ [line] }

/-- Carries out a procedure on the host. -/
def perform (failure : ε → Failure) (work : Procedure ε κ φ α) : Session κ φ α := do
  let desk ← get
  let (outcome, host) := work.run desk.host
  set { desk with host }
  match outcome with
  | .ok value => pure value
  | .error cause => throw (failure cause)

end Session

variable {κ φ : Type}

def Generation.configuration (generation : Generation) : NetworkConfiguration :=
  let usual :=
    NetworkConfiguration.usual generation.name generation.subnet generation.clusterCidr
      generation.uplink
  { usual with
    vxlan := { usual.vxlan with identifier := generation.identifier.getD usual.vxlan.identifier }
    ledger := { usual.ledger with locked := generation.lockLedger }
    bridgeFilter := generation.bridgeFilter }

/-- Generates a configuration, once the plugin would accept it, and prints or saves it. -/
def generate (generation : Generation) : Session κ φ Unit := do
  let text := generation.configuration.json.pretty
  match NetworkConfiguration.parse (Bytes.ofText text) with
  | .error defect => throw (.generatedInvalid defect)
  | .ok _ =>
      match generation.output with
      | none => Session.print text
      | some path => do
          Session.perform (.configurationNotSaved path)
            (Procedure.changeFiles id (·.write path (Bytes.ofText text)))
          Session.print ("Network configuration written to " ++ path.text)

/-- The template that is filled in. -/
def loadTemplate (deployment : Deployment) : Session κ φ String :=
  match deployment.template, deployment.clusterCidr, deployment.uplink with
  | some path, _, _ =>
      Session.perform (.templateNotRead path) (Procedure.readFiles id (·.readText path))
  | none, some clusterCidr, some uplink => pure (Template.usual clusterCidr uplink).json.pretty
  | none, _, _ => throw .templateUnspecified

def deploy (deployment : Deployment) : Session κ φ Unit := do
  let template ← loadTemplate deployment
  Session.perform .installation
    (Installation.install deployment.layout deployment.binary template deployment.subnet)
  Session.print ("sknf installed to " ++ deployment.layout.binaryDirectory.text ++
    " with subnet " ++ deployment.subnet)

def showNames (attachment : Device.Attachment) : Session κ φ Unit := do
  Session.print ("host:      " ++ attachment.names.host)
  Session.print ("transient: " ++ attachment.names.transient)

def showLedger (path : Path) : Session κ φ Unit := do
  match ← Session.perform .fault (Allocation.lastIssued ⟨path, false⟩) with
  | some last => Session.print last.text
  | none => Session.print ("No address issued yet (" ++ path.text ++ " is absent)")

/-- Shows whether a device is there, and to which bridge it belongs. -/
def showDevice (channel : LinkChannel κ) (name : String) : Session κ φ Unit := do
  match ← Session.perform .fault (Procedure.ask channel (.indexOf name)) with
  | none => Session.print ("  " ++ name ++ " not present")
  | some index => do
      match ← Session.perform .fault (Procedure.ask channel (.masterOf index)) with
      | some master =>
          Session.print ("  " ++ name ++ " (ifindex " ++ Decimal.text index ++
            ", master ifindex " ++ Decimal.text master ++ ")")
      | none => Session.print ("  " ++ name ++ " (ifindex " ++ Decimal.text index ++ ")")

def showStatus (channel : LinkChannel κ) (bridge vxlan : String) : Session κ φ Unit := do
  Session.print "Overlay devices:"
  showDevice channel bridge
  showDevice channel vxlan

def serve (channel : LinkChannel κ) : Request → Session κ φ Unit
  | .generate generation => generate generation
  | .install deployment => deploy deployment
  | .names attachment => showNames attachment
  | .ledger path => showLedger path
  | .status bridge vxlan => showStatus channel bridge vxlan

/-- What a run of the tool leaves behind: its exit code and its texts. -/
structure Conclusion where
  exitCode : UInt32
  output : String
  /-- The report of a failure. -/
  failure : Option String
deriving DecidableEq, Repr

def versionText : String := "sknf-ctl 0.1.0\n"

def helpText : String :=
  "Usage: sknf-ctl [OPTIONS] <" ++ "|".intercalate (subcommands.map Subcommand.name) ++ ">\n"

/-- Carries out what a command line asks for. -/
def run (channel : LinkChannel κ) (arguments : List String) (host : Host κ φ) :
    Conclusion × Host κ φ :=
  match readRequest false arguments with
  | .error .usage => (⟨2, "", none⟩, host)
  | .error .help => (⟨0, helpText, none⟩, host)
  | .error .version => (⟨0, versionText, none⟩, host)
  | .ok request =>
      let (outcome, desk) := (serve channel request).run ⟨host, []⟩
      let output := String.join (desk.printed.map (· ++ "\n"))
      match outcome with
      | .ok () => (⟨0, output, none⟩, desk.host)
      | .error failure => (⟨1, output, some (report failure.chain)⟩, desk.host)

end OverlayNet.Operator
