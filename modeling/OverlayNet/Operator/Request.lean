import OverlayNet.Configuration.Installation
import OverlayNet.Operator.Options

set_option autoImplicit false

/-! # Requests of the operator

A command line names one thing to do: to generate a configuration, to install the plugin, to show
the names of an attachment's devices, to show the address issued last, or to show which shared
devices are there. -/

namespace OverlayNet.Operator

/-- What the configuration that is generated is to be. -/
structure Generation where
  name : String
  subnet : String
  clusterCidr : String
  uplink : String
  identifier : Option UInt32
  lockLedger : Bool
  bridgeFilter : Bool
  /-- The file to which it is written; none for standard output. -/
  output : Option Path
deriving DecidableEq, Repr

/-- What is installed, and where. -/
structure Deployment where
  binary : Path
  subnet : String
  /-- The template; without one a usual configuration is generated. -/
  template : Option Path
  clusterCidr : Option String
  uplink : Option String
  layout : Layout
deriving DecidableEq, Repr

inductive Request where
  | generate (generation : Generation)
  | install (deployment : Deployment)
  | names (attachment : Device.Attachment)
  | ledger (path : Path)
  | status (bridge vxlan : String)
deriving DecidableEq, Repr

/-- The paths that a request may read or change. -/
def Request.paths : Request → List Path
  | .generate generation => generation.output.toList
  | .install deployment =>
      deployment.template.toList ++
        [deployment.binary, deployment.layout.binaryTarget, deployment.layout.configurationTarget]
  | .names _ => []
  | .ledger path => [path]
  | .status _ _ => []

private def needed (name : String) (takes : Takes) : OptionSpec := ⟨name, takes, true⟩

private def possible (name : String) (takes : Takes) : OptionSpec := ⟨name, takes, false⟩

/-- A subcommand: its name, its options, and the request for which options stand. -/
structure Subcommand where
  name : String
  specs : List OptionSpec
  request : Given → Request

def generateSubcommand : Subcommand where
  name := "generate"
  specs :=
    [possible "name" .text, needed "subnet" .text, needed "cluster-cidr" .text,
      needed "uplink" .text, possible "vni" .number, possible "lock-ledger" .nothing,
      possible "br-netfilter" .nothing, possible "output" .path]
  request given :=
    .generate
      { name := given.valueOr "name" "sknf-network"
        subnet := given.valueOr "subnet" ""
        clusterCidr := given.valueOr "cluster-cidr" ""
        uplink := given.valueOr "uplink" ""
        identifier := given.number? "vni"
        lockLedger := given.flag "lock-ledger"
        bridgeFilter := given.flag "br-netfilter"
        output := (given.lookup "output").map Path.mk }

def installSubcommand : Subcommand where
  name := "install"
  specs :=
    [needed "binary" .path, needed "subnet" .text, possible "template" .path,
      possible "cluster-cidr" .text, possible "uplink" .text, possible "bin-dir" .path,
      possible "conf-dir" .path]
  request given :=
    .install
      { binary := ⟨given.valueOr "binary" ""⟩
        subnet := given.valueOr "subnet" ""
        template := (given.lookup "template").map Path.mk
        clusterCidr := given.lookup "cluster-cidr"
        uplink := given.lookup "uplink"
        layout :=
          { Layout.usual with
            binaryDirectory := ⟨given.valueOr "bin-dir" Layout.usual.binaryDirectory.text⟩
            configurationDirectory :=
              ⟨given.valueOr "conf-dir" Layout.usual.configurationDirectory.text⟩ } }

def namesSubcommand : Subcommand where
  name := "names"
  specs := [needed "netns" .text, possible "ifname" .text, needed "container-id" .text]
  request given :=
    .names
      ⟨given.valueOr "netns" "", given.valueOr "ifname" "eth0", given.valueOr "container-id" ""⟩

def ledgerSubcommand : Subcommand where
  name := "ledger"
  specs := [possible "path" .path]
  request given := .ledger ⟨given.valueOr "path" Ledger.usualPath.text⟩

def statusSubcommand : Subcommand where
  name := "status"
  specs := [possible "bridge" .text, possible "vxlan" .text]
  request given :=
    .status (given.valueOr "bridge" Topology.usualBridge) (given.valueOr "vxlan" Vxlan.usual.name)

def subcommands : List Subcommand :=
  [generateSubcommand, installSubcommand, namesSubcommand, ledgerSubcommand, statusSubcommand]

/-- The letters of an argument of short flags. The only flag asks for more to be logged, and is
given once. -/
def readFlags (verbose : Bool) : List Char → Except Refusal Bool
  | [] => .ok verbose
  | 'v' :: rest => if verbose then .error .usage else readFlags true rest
  | 'V' :: _ => .error .version
  | 'h' :: _ => .error .help
  | _ => .error .usage

/-- What comes of asking for help. Behind it may stand one name, that of a subcommand or `help`
itself, and nothing else. -/
def readTopic : List String → Refusal
  | [] => .help
  | [topic] => if topic = "help" || subcommands.any (·.name = topic) then .help else .usage
  | _ => .usage

/-- The request for which a command line stands. Flags come before the subcommand. -/
def readRequest (verbose : Bool) : List String → Except Refusal Request
  | [] => .error .usage
  | argument :: rest =>
      match argument.toList with
      | ['-'] => .error .usage
      | '-' :: '-' :: _ =>
          if argument = "--version" then .error .version
          else if argument = "--help" then .error .help
          else if argument = "--verbose" ∧ !verbose then readRequest true rest
          else .error .usage
      | '-' :: letters =>
          match readFlags verbose letters with
          | .ok verbose => readRequest verbose rest
          | .error refusal => .error refusal
      | _ =>
          if argument = "help" then .error (readTopic rest)
          else
            match subcommands.find? (·.name = argument) with
            | none => .error .usage
            | some subcommand => (options subcommand.specs rest).map subcommand.request

end OverlayNet.Operator
