import Mathlib
import OverlayNet.Proofs.Address.Networks
import OverlayNet.Proofs.Ledger.Issuing

set_option autoImplicit false

/-! # Neighbours on the link

Every address carries the prefix length of the cluster. So a container reaches the bridge of its
node and the containers of other nodes on the link, as long as the addresses come from the subnets
of the nodes. -/

namespace OverlayNet.Allocation

open Cidr (Apart OnLink Within)

variable {κ φ μ ψ : Type}

/-- Whether an acquisition issues an address without the warning that it is outside the subnet of
the node. -/
def IssuesInside (ledger : Ledger) (node cluster : Cidr) (host : Host κ φ) (container : Cidr) :
    Prop :=
  ∃ later entries, (acquire ledger node cluster).outcome host = (.ok container, later) ∧
    later.log = host.log ++ entries ∧ outsideWarning node container ∉ entries

/-- An address that is issued without the warning lies in the subnet of the node. -/
theorem IssuesInside.contains {ledger : Ledger} {node cluster container : Cidr} {host : Host κ φ}
    (inside : IssuesInside ledger node cluster host container) :
    node.contains container.address = true ∧ container.prefixLength = cluster.prefixLength := by
  obtain ⟨later, entries, acquired, log, silent⟩ := inside
  obtain ⟨last?, rfl, issuance⟩ := issuance_of_ok acquired
  refine ⟨?_, prefixLength_issued node cluster last?⟩
  by_contra outside
  have logged : entries = remarks node cluster last? :=
    List.append_cancel_left (log.symm.trans issuance.log)
  apply silent
  rw [logged, remarks, warnings, if_neg outside]
  exact List.mem_append_right _ (List.mem_singleton_self _)

/-- The bridge has an address of the node's subnet, and not the subnet's own. A container whose
address is issued without a warning reaches it on the link, and, if the subnets of the nodes are
part of the cluster, every container of another node whose address is issued so. Such containers
share no address if the subnets do not. -/
theorem containers_on_link (node cluster : Cidr)
    (wider : cluster.prefixLength ≤ node.prefixLength) (room : node.prefixLength ≤ 31) :
    node.contains (bridgeAddress node cluster).address = true ∧
    (bridgeAddress node cluster).address ≠ node.network ∧
    ∀ (ledger : Ledger) (host : Host κ φ) (container : Cidr),
      IssuesInside ledger node cluster host container →
      OnLink container (bridgeAddress node cluster) ∧
      ∀ (other : Cidr) (otherLedger : Ledger) (otherHost : Host μ ψ) (otherContainer : Cidr),
        cluster.prefixLength ≤ other.prefixLength → Within node cluster → Within other cluster →
        IssuesInside otherLedger other cluster otherHost otherContainer →
        OnLink container otherContainer ∧ cluster.contains container.address = true ∧
          cluster.contains otherContainer.address = true ∧
          (Apart node other → container.address ≠ otherContainer.address) := by
  have bridgeInside : node.contains (bridgeAddress node cluster).address = true :=
    Cidr.contains_network_advance room
  refine ⟨bridgeInside, Ipv4.advance_one_ne node.network, ?_⟩
  intro ledger host container inside
  obtain ⟨contained, length⟩ := inside.contains
  have shorter : container.prefixLength ≤ node.prefixLength := by rwa [length]
  refine ⟨Cidr.onLink_of_contains shorter wider contained bridgeInside, ?_⟩
  intro other otherLedger otherHost otherContainer otherWider within otherWithin otherInside
  obtain ⟨otherContained, otherLength⟩ := otherInside.contains
  have inCluster := within container.address contained
  have otherInCluster := otherWithin otherContainer.address otherContained
  refine ⟨Cidr.onLink_of_contains length.le otherLength.le inCluster otherInCluster, inCluster,
    otherInCluster, ?_⟩
  intro apart same
  rw [← same] at otherContained
  exact apart container.address ⟨contained, otherContained⟩

section Samples

def secondNode : Cidr := sampleNode.offset 256

private theorem issuesInside_sampleNode :
    IssuesInside ⟨⟨"ledger"⟩, true⟩ sampleNode sampleCluster .bare ⟨⟨0x0a200102⟩, 16, by decide⟩ :=
  ⟨_, [seedingNotice sampleNode], Prod.ext (by decide +kernel) rfl, by decide +kernel,
    by decide +kernel⟩

private theorem issuesInside_secondNode :
    IssuesInside ⟨⟨"ledger"⟩, false⟩ secondNode sampleCluster .bare ⟨⟨0x0a200202⟩, 16, by decide⟩ :=
  ⟨_, [seedingNotice secondNode], Prod.ext (by decide +kernel) rfl, by decide +kernel,
    by decide +kernel⟩

private theorem apart_nodes : Apart sampleNode secondNode := by
  rintro address ⟨first, second⟩
  have firstLeads : address.leading 24 = sampleNode.address.leading 24 :=
    Cidr.contains_iff_leading.mp first
  have secondLeads : address.leading 24 = secondNode.address.leading 24 :=
    Cidr.contains_iff_leading.mp second
  exact absurd (firstLeads.symm.trans secondLeads) (by decide)

theorem containers_on_link_two :
    OnLink ⟨⟨0x0a200102⟩, 16, by decide⟩ (bridgeAddress sampleNode sampleCluster) ∧
    OnLink ⟨⟨0x0a200102⟩, 16, by decide⟩ ⟨⟨0x0a200202⟩, 16, by decide⟩ ∧
    (⟨0x0a200102⟩ : Ipv4) ≠ ⟨0x0a200202⟩ := by
  obtain ⟨-, -, reach⟩ :=
    @containers_on_link Unit Unit Unit Unit sampleNode sampleCluster (by decide) (by decide)
  obtain ⟨bridge, others⟩ := reach _ _ _ issuesInside_sampleNode
  obtain ⟨neighbour, -, -, distinct⟩ := others secondNode _ _ _ (by decide)
    (Cidr.within_of_contains (by decide) (by decide))
    (Cidr.within_of_contains (by decide) (by decide)) issuesInside_secondNode
  exact ⟨bridge, neighbour, distinct apart_nodes⟩

end Samples

end OverlayNet.Allocation
