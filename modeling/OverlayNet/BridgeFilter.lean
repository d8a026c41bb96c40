import OverlayNet.Host

set_option autoImplicit false

/-! # Packet filtering on bridges

Containers on one bridge reach each other below the IP layer, where the packet filter sees their
traffic only if two system settings are on. -/

namespace OverlayNet.BridgeFilter

variable {κ φ : Type}

/-- The settings, by their names under the root of all settings. -/
def settings : List String :=
  ["net/bridge/bridge-nf-call-iptables", "net/bridge/bridge-nf-call-ip6tables"]

def turnOn (setting : Path) : Action κ φ Unit :=
  Procedure.changeFiles (.system "Failure writing sysctl" setting.text)
    (·.write setting (Bytes.ofText "1\n"))

def enable (root : Path) : Action κ φ Unit := do
  settings.forM fun setting => turnOn (root.join setting)
  Procedure.inform "Enabled br_netfilter sysctls"

end OverlayNet.BridgeFilter
