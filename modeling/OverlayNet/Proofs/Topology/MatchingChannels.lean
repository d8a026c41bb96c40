import Mathlib
import OverlayNet.Proofs.Correspondence
import OverlayNet.Topology

set_option autoImplicit false

/-! # Channels that answer alike

The work on a topology knows the links of a host only by what a channel answers. Over two channels
whose answers are the same, and keep the states of the links related in some way, it comes to the
same and keeps them related. If the two are one channel, this is an invariant of its states. -/

namespace OverlayNet

variable {κ μ φ α : Type}

/-- Whether two channels give the same answers in related states, and keep the states related. -/
def LinkChannel.Matches (related : κ → μ → Prop) (channel : LinkChannel κ)
    (other : LinkChannel μ) : Prop :=
  ∀ request first second, related first second →
    (channel request first).1 = (other request second).1 ∧
      related (channel request first).2 (other request second).2

/-- Whether two hosts differ in their links alone, and these are related. -/
structure Host.Matches (related : κ → μ → Prop) (first : Host κ φ) (second : Host μ φ) :
    Prop where
  files : first.files = second.files
  links : related first.links second.links
  filter : first.filter = second.filter
  log : first.log = second.log

namespace Topology

open Procedure (Corresponds)

/-- Whether two procedures come to the same on hosts with related links, and keep these related. -/
abbrev Alongside (related : κ → μ → Prop) (work : Action κ φ α) (other : Action μ φ α) : Prop :=
  Corresponds (Host.Matches related) work other

variable {related : κ → μ → Prop}

theorem alongside_inform (text : String) :
    Alongside (φ := φ) related (Procedure.inform text) (Procedure.inform text) := by
  apply Procedure.corresponds_recordAll
  intro first second alike
  exact { alike with log := congrArg (· ++ [⟨.info, text⟩]) alike.log }

theorem alongside_openAt (path : Path) :
    Alongside (φ := φ) related (Namespace.openAt path) (Namespace.openAt path) := by
  apply Corresponds.bind
  · apply Procedure.corresponds_readFiles
    intro first second alike
    rw [alike.files]
  · exact fun _ => Procedure.corresponds_pure _

section Steps

variable {channel : LinkChannel κ} {other : LinkChannel μ} (alike : channel.Matches related other)

include alike

theorem alongside_ask (request : LinkRequest) :
    Alongside (φ := φ) related (Procedure.ask channel request)
      (Procedure.ask other request) := by
  intro first second matched
  obtain ⟨same, stillRelated⟩ := alike request first.links second.links matched.links
  exact ⟨same, { matched with links := stillRelated }⟩

theorem alongside_requireIndex (context name : String) :
    Alongside (φ := φ) related (requireIndex channel context name)
      (requireIndex other context name) := by
  apply (alongside_ask alike (.indexOf name)).bind
  intro found
  cases found with
  | none => exact Procedure.corresponds_throw _
  | some index => exact Procedure.corresponds_pure index

theorem alongside_createPair (target : Path) (interface : String) (names : Device.Names) :
    Alongside (φ := φ) related (createPair channel target interface names)
      (createPair other target interface names) := by
  apply (alongside_ask alike (.createPair names.host names.transient)).bind
  intro _
  apply (alongside_requireIndex alike _ names.transient).bind
  intro peer
  apply (alongside_ask alike (.moveInto peer target interface)).bind
  exact fun _ => alongside_inform _

theorem alongside_configureContainer (target : Path) (interface : String)
    (containerCidr bridgeCidr : Cidr) :
    Alongside (φ := φ) related
      (configureContainer channel target interface containerCidr bridgeCidr)
      (configureContainer other target interface containerCidr bridgeCidr) := by
  apply (alongside_ask alike (.configureIn target interface containerCidr bridgeCidr.address)).bind
  exact fun _ => alongside_inform _

variable (topology : Topology)

theorem alongside_ensureBridge (address : Cidr) :
    Alongside (φ := φ) related (topology.ensureBridge channel address)
      (topology.ensureBridge other address) := by
  apply (alongside_ask alike (.indexOf topology.bridge)).bind
  intro found
  cases found with
  | some index => exact Procedure.corresponds_pure ()
  | none =>
      apply (alongside_ask alike (.createBridge topology.bridge)).bind
      intro _
      apply (alongside_requireIndex alike _ topology.bridge).bind
      intro index
      apply (alongside_ask alike (.setUp index)).bind
      intro _
      apply (alongside_ask alike (.addAddress index address)).bind
      exact fun _ => alongside_inform _

theorem alongside_ensureVxlan (uplink : String) :
    Alongside (φ := φ) related (topology.ensureVxlan channel uplink)
      (topology.ensureVxlan other uplink) := by
  apply (alongside_ask alike (.indexOf topology.vxlan.name)).bind
  intro found
  cases found with
  | some index => exact Procedure.corresponds_pure ()
  | none =>
      apply (alongside_requireIndex alike _ uplink).bind
      intro carrier
      apply (alongside_ask alike (.createVxlan topology.vxlan carrier)).bind
      intro _
      apply (alongside_requireIndex alike _ topology.vxlan.name).bind
      intro index
      apply (alongside_ask alike (.setUp index)).bind
      exact fun _ => alongside_inform _

theorem alongside_enslave (index : Nat) :
    Alongside (φ := φ) related (topology.enslave channel index)
      (topology.enslave other index) := by
  apply (alongside_requireIndex alike _ topology.bridge).bind
  intro bridge
  apply (alongside_ask alike (.masterOf index)).bind
  intro master
  split
  · exact Procedure.corresponds_pure ()
  · exact alongside_ask alike (.setMaster index bridge)

theorem alongside_enableAndEnslave (name : String) :
    Alongside (φ := φ) related (topology.enableAndEnslave channel name)
      (topology.enableAndEnslave other name) := by
  apply (alongside_requireIndex alike _ name).bind
  intro index
  apply (alongside_ask alike (.setUp index)).bind
  exact fun _ => alongside_enslave alike topology index

theorem alongside_enslaveVxlan :
    Alongside (φ := φ) related (topology.enslaveVxlan channel) (topology.enslaveVxlan other) := by
  apply (alongside_requireIndex alike _ topology.vxlan.name).bind
  exact fun index => alongside_enslave alike topology index

/-- Attaching a container over channels that answer alike. -/
theorem alongside_attach (wiring : Wiring) :
    Alongside (φ := φ) related (topology.attach channel wiring)
      (topology.attach other wiring) := by
  apply (alongside_openAt ⟨wiring.attachment.namespacePath⟩).bind
  intro handle
  apply (alongside_ensureBridge alike topology wiring.bridgeCidr).bind
  intro _
  apply (alongside_ensureVxlan alike topology wiring.uplink).bind
  intro _
  apply (alongside_createPair alike handle.path _ wiring.attachment.names).bind
  intro _
  apply (alongside_configureContainer alike handle.path _ wiring.containerCidr _).bind
  intro _
  apply (alongside_enableAndEnslave alike topology wiring.attachment.names.host).bind
  intro _
  apply (alongside_enslaveVxlan alike topology).bind
  exact fun _ => Procedure.corresponds_pure _

omit topology in
/-- Detaching a container over channels that answer alike. -/
theorem alongside_detach (attachment : Device.Attachment) :
    Alongside (φ := φ) related (detach channel attachment) (detach other attachment) := by
  apply (alongside_requireIndex alike _ attachment.names.host).bind
  intro index
  apply (alongside_ask alike (.delete index)).bind
  exact fun _ => alongside_inform _

end Steps

section Invariants

variable {holds : κ → Prop} {channel : LinkChannel κ}

/-- A channel whose answers keep an invariant matches itself in the states that have it. -/
theorem matches_self
    (keeps : ∀ request links, holds links → holds (channel request links).2) :
    channel.Matches (fun first second => first = second ∧ holds first) channel := by
  rintro request first _ ⟨rfl, held⟩
  exact ⟨rfl, rfl, keeps request first held⟩

/-- Procedures that keep links related to themselves, if these have an invariant, keep it. -/
theorem Alongside.keeps {work : Action κ φ α}
    (along : Alongside (fun first second => first = second ∧ holds first) work work)
    (host : Host κ φ) (held : holds host.links) : holds (work.outcome host).2.links :=
  (along host host ⟨rfl, ⟨rfl, held⟩, rfl, rfl⟩).2.links.2

end Invariants

end Topology

end OverlayNet
