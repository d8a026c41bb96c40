import OverlayNet.Configuration.Template

set_option autoImplicit false

/-! # Installing the plugin

The plugin is installed by copying its binary to the directory where the runtime looks for plugins,
and by filling in a template in the directory where the runtime looks for configurations. -/

namespace OverlayNet

open Json (Codec Field Fields Record)

/-- Where the plugin is installed. -/
structure Layout where
  binaryDirectory : Path
  configurationDirectory : Path
  pluginName : String
  configurationName : String
deriving DecidableEq, Repr

namespace Layout

def usual : Layout := ⟨⟨"/opt/cni/bin"⟩, ⟨"/etc/cni/net.d"⟩, "sknf", "10-sknf.conf"⟩

def record : Record Layout where
  name := "SknfConfig"
  fields :=
    .field (.required "cni_bin_dir" Path.codec) <| .field (.required "cni_conf_dir" Path.codec) <|
      .field (.required "plugin_name" .text) <| .field (.required "conf_name" .text) .none
  make := fun (binaryDirectory, configurationDirectory, pluginName, configurationName, ()) =>
    ⟨binaryDirectory, configurationDirectory, pluginName, configurationName⟩
  parts layout :=
    (layout.binaryDirectory, layout.configurationDirectory, layout.pluginName,
      layout.configurationName, ())

def binaryTarget (layout : Layout) : Path :=
  layout.binaryDirectory.join layout.pluginName

def configurationTarget (layout : Layout) : Path :=
  layout.configurationDirectory.join layout.configurationName

end Layout

namespace Installation

inductive Failure where
  | directoryNotMade (directory : Path) (cause : Os.Cause)
  | binaryNotCopied (binary target : Path) (cause : Os.Cause)
  | permissionsNotSet (target : Path) (cause : Os.Cause)
  | subnetInvalid (subnet : String) (defect : Cidr.Defect)
  | configurationNotWritten (target : Path) (cause : Os.Cause)
deriving DecidableEq, Repr

/-- The wording of a failure, followed by that of its cause. -/
def Failure.chain : Failure → List String
  | .directoryNotMade directory cause =>
      ["Failed to create directory: " ++ directory.text, cause.text]
  | .binaryNotCopied binary target cause =>
      ["Failure copying CNI plugin binary from " ++ binary.text ++ " to " ++ target.text,
        cause.text]
  | .permissionsNotSet target cause =>
      ["Failed to set permissions on " ++ target.text, cause.text]
  | .subnetInvalid subnet defect =>
      ["Invalid node subnet " ++ subnet, (Fault.ofDefect subnet defect).text]
  | .configurationNotWritten target cause =>
      ["Failed to write CNI config to " ++ target.text, cause.text]

def binaryMode : Nat := 0o755

variable {κ φ : Type}

/-- Makes a directory, if need be together with those above it. -/
def makeDirectory (directory : Path) : Procedure Failure κ φ Unit :=
  Procedure.attemptFiles (.directoryNotMade directory) (·.ensureDirectory directory)

def installBinary (layout : Layout) (binary : Path) : Procedure Failure κ φ Path := do
  let target := layout.binaryTarget
  makeDirectory layout.binaryDirectory
  Procedure.attemptFiles (.binaryNotCopied binary target) (·.copy binary target)
  Procedure.changeFiles (.permissionsNotSet target) (·.setMode target binaryMode)
  Procedure.inform ("Installed plugin binary to " ++ target.text)
  pure target

/-- Fills in a template for a subnet, and yields the path of the configuration. -/
def installConfiguration (layout : Layout) (template subnet : String) :
    Procedure Failure κ φ Path := do
  let target := layout.configurationTarget
  let _ ← Procedure.ofExcept ((Cidr.parse subnet).mapError (Failure.subnetInvalid subnet))
  makeDirectory layout.configurationDirectory
  Procedure.changeFiles (.configurationNotWritten target)
    (·.write target (Bytes.ofText (Template.render template subnet)))
  Procedure.inform ("Wrote network configuration to " ++ target.text)
  pure target

def install (layout : Layout) (binary : Path) (template subnet : String) :
    Procedure Failure κ φ Unit := do
  let _ ← installBinary layout binary
  let _ ← installConfiguration layout template subnet

end Installation

end OverlayNet
