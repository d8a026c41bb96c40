import OverlayNet.Configuration.Network
import OverlayNet.Text.Replace

set_option autoImplicit false

/-! # Templates of configurations

A template is a configuration in which the subnet of the node is left open. It is filled in where
the placeholder stands. -/

namespace OverlayNet.Template

/-- What stands for the subnet of the node. -/
def placeholder : String := "\x7b\x7bSUBNET\x7d\x7d"

/-- The template with the subnet in place of every placeholder. -/
def render (template subnet : String) : String :=
  String.ofList (Text.replaceAll placeholder.toList subnet.toList template.toList)

def usual (clusterCidr uplink : String) : NetworkConfiguration :=
  .usual "sknf-network" placeholder clusterCidr uplink

end OverlayNet.Template
