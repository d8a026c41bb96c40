import OverlayNet.Ledger.File

set_option autoImplicit false

/-! # Allocation of addresses

The bridge of a node has the first address of the node's subnet, and the containers get the
addresses after it, one by one. Every address is written with the prefix length of the cluster, so
that containers on other nodes are neighbours on the link and not behind a gateway. -/

namespace OverlayNet.Allocation

variable {κ φ : Type}

/-- The first address of the node's subnet behind the network address itself. -/
def bridgeAddress (node cluster : Cidr) : Cidr :=
  ((⟨node.network, node.prefixLength, node.prefixLength_le⟩ : Cidr).offset 1).withPrefixOf cluster

/-- The address after the last one issued. An address outside the node's subnet is issued too, with
a warning. -/
def successor (node cluster last : Cidr) : Cidr × List LogEntry :=
  let next := (last.offset 1).withPrefixOf cluster
  if node.contains next.address then (next, [])
  else
    (next, [⟨.warning,
      "Allocated address " ++ next.text ++ " is outside node subnet " ++ node.text⟩])

/-- The decision on the next address, given what the ledger stores. An empty ledger counts from the
address of the bridge. -/
def next (node cluster : Cidr) : Option String → Decision
  | some stored =>
      match Cidr.read stored with
      | .error fault => ⟨[], .error fault⟩
      | .ok last =>
          let (issued, warnings) := successor node cluster last
          ⟨warnings, .ok issued.text⟩
  | none =>
      let (issued, warnings) := successor node cluster (bridgeAddress node cluster)
      ⟨⟨.info, "IP ledger is empty, seeding from node subnet " ++ node.text⟩ :: warnings,
        .ok issued.text⟩

def acquire (ledger : Ledger) (node cluster : Cidr) : Action κ φ Cidr := do
  let stored ← ledger.update (next node cluster)
  Procedure.ofExcept (Cidr.read stored)

/-- The address that was issued last, if any was. -/
def lastIssued (ledger : Ledger) : Action κ φ (Option Cidr) := do
  match ← ledger.peek with
  | none => pure none
  | some stored =>
      let last ← Procedure.ofExcept (Cidr.read stored)
      pure (some last)

end OverlayNet.Allocation
