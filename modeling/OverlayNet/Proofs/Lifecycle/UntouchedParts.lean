import Mathlib
import OverlayNet.Lifecycle
import OverlayNet.Proofs.TouchedPart

set_option autoImplicit false

/-! # What the steps of an attachment leave alone

Issuing an address touches nothing but files, wiring nothing but links, and the masquerade rule
nothing but the packet filter, whatever answers the requests and whether or not it succeeds. -/

namespace OverlayNet

open Procedure (Touches)
open LogEntry (Apart Ordinary)

variable {κ φ : Type}

section Files

theorem BridgeFilter.touches_enable (root : Path) :
    Touches .files (enable root : Action κ φ Unit) := by
  apply Touches.bind (Procedure.touches_forM (fun _ => Procedure.touches_changeFiles _ _) _)
  exact fun _ => Procedure.touches_inform (by decide)

theorem Ledger.touches_takeLock (ledger : Ledger) :
    Touches .files (ledger.takeLock : Action κ φ Unit) := by
  unfold takeLock
  split
  · exact Procedure.touches_changeFiles _ _
  · exact Procedure.touches_pure ()

theorem Ledger.touches_update (ledger : Ledger) {next : Option String → Decision}
    (ordinary : ∀ stored, ∀ entry ∈ (next stored).log, entry.Ordinary) :
    Touches .files (ledger.update next : Action κ φ String) := by
  apply Touches.bind ledger.touches_takeLock
  intro _
  apply Touches.bind (Procedure.touches_readFiles _ _)
  intro stored
  apply Touches.bind
  · apply Touches.bind (Procedure.touches_recordAll (ordinary stored))
    exact fun _ => Procedure.touches_ofExcept _
  intro text
  apply Touches.bind (Procedure.touches_changeFiles _ _)
  exact fun _ => Procedure.touches_pure _

private theorem Allocation.ordinary_successor (node cluster last : Cidr) :
    ∀ entry ∈ (successor node cluster last).2, entry.Ordinary := by
  rw [successor]
  intro entry member
  split at member
  · cases member
  · rw [List.mem_singleton.mp member]
    exact LogEntry.ordinary_warning _

private theorem Allocation.ordinary_next (node cluster : Cidr) (stored : Option String) :
    ∀ entry ∈ (next node cluster stored).log, entry.Ordinary := by
  intro entry member
  cases stored with
  | none =>
      rcases List.mem_cons.mp member with rfl | warning
      · exact LogEntry.ordinary_info (Apart.append (by decide) _)
      · exact ordinary_successor node cluster _ entry warning
  | some text =>
      rw [next] at member
      split at member
      · cases member
      · exact ordinary_successor node cluster _ entry member

theorem Allocation.touches_acquire (ledger : Ledger) (node cluster : Cidr) :
    Touches .files (acquire ledger node cluster : Action κ φ Cidr) := by
  apply Touches.bind (ledger.touches_update (ordinary_next node cluster))
  exact fun _ => Procedure.touches_ofExcept _

end Files

namespace Topology

theorem touches_requireIndex (channel : LinkChannel κ) (context name : String) :
    Touches .links (requireIndex channel context name : Action κ φ Nat) := by
  apply Touches.bind (Procedure.touches_ask channel _)
  intro index
  cases index with
  | none => exact Procedure.touches_throw _
  | some index => exact Procedure.touches_pure index

theorem touches_ensureBridge (topology : Topology) (channel : LinkChannel κ) (address : Cidr) :
    Touches .links (topology.ensureBridge channel address : Action κ φ Unit) := by
  apply Touches.bind (Procedure.touches_ask channel _)
  intro index
  cases index with
  | some index => exact Procedure.touches_pure ()
  | none =>
      apply Touches.bind (Procedure.touches_ask channel _)
      intro _
      apply Touches.bind (touches_requireIndex channel _ _)
      intro _
      apply Touches.bind (Procedure.touches_ask channel _)
      intro _
      apply Touches.bind (Procedure.touches_ask channel _)
      intro _
      apply Procedure.touches_inform
      repeat' apply Apart.append
      decide

theorem touches_ensureVxlan (topology : Topology) (channel : LinkChannel κ) (uplink : String) :
    Touches .links (topology.ensureVxlan channel uplink : Action κ φ Unit) := by
  apply Touches.bind (Procedure.touches_ask channel _)
  intro index
  cases index with
  | some index => exact Procedure.touches_pure ()
  | none =>
      apply Touches.bind (touches_requireIndex channel _ _)
      intro _
      apply Touches.bind (Procedure.touches_ask channel _)
      intro _
      apply Touches.bind (touches_requireIndex channel _ _)
      intro _
      apply Touches.bind (Procedure.touches_ask channel _)
      intro _
      apply Procedure.touches_inform
      repeat' apply Apart.append
      decide

theorem touches_createPair (channel : LinkChannel κ) (target : Path) (interface : String)
    (names : Device.Names) :
    Touches .links (createPair channel target interface names : Action κ φ Unit) := by
  apply Touches.bind (Procedure.touches_ask channel _)
  intro _
  apply Touches.bind (touches_requireIndex channel _ _)
  intro _
  apply Touches.bind (Procedure.touches_ask channel _)
  intro _
  apply Procedure.touches_inform
  repeat' apply Apart.append
  decide

theorem touches_configureContainer (channel : LinkChannel κ) (target : Path) (interface : String)
    (containerCidr bridgeCidr : Cidr) :
    Touches .links
      (configureContainer channel target interface containerCidr bridgeCidr : Action κ φ Unit) := by
  apply Touches.bind (Procedure.touches_ask channel _)
  intro _
  apply Procedure.touches_inform
  repeat' apply Apart.append
  decide

theorem touches_enslave (topology : Topology) (channel : LinkChannel κ) (index : Nat) :
    Touches .links (topology.enslave channel index : Action κ φ Unit) := by
  apply Touches.bind (touches_requireIndex channel _ _)
  intro bridge
  apply Touches.bind (Procedure.touches_ask channel _)
  intro master
  split
  · exact Procedure.touches_pure ()
  · exact Procedure.touches_ask channel _

theorem touches_enableAndEnslave (topology : Topology) (channel : LinkChannel κ) (name : String) :
    Touches .links (topology.enableAndEnslave channel name : Action κ φ Unit) := by
  apply Touches.bind (touches_requireIndex channel _ _)
  intro index
  apply Touches.bind (Procedure.touches_ask channel _)
  exact fun _ => topology.touches_enslave channel index

theorem touches_attach (topology : Topology) (channel : LinkChannel κ) (wiring : Wiring) :
    Touches .links (topology.attach channel wiring : Action κ φ Device.Names) := by
  apply Touches.bind
  · apply Touches.bind (Procedure.touches_readFiles _ _)
    exact fun _ => Procedure.touches_pure _
  intro handle
  apply Touches.bind (topology.touches_ensureBridge channel _)
  intro _
  apply Touches.bind (topology.touches_ensureVxlan channel _)
  intro _
  apply Touches.bind (touches_createPair channel _ _ _)
  intro _
  apply Touches.bind (touches_configureContainer channel _ _ _ _)
  intro _
  apply Touches.bind (topology.touches_enableAndEnslave channel _)
  intro _
  apply Touches.bind
  · apply Touches.bind (touches_requireIndex channel _ _)
    exact topology.touches_enslave channel
  exact fun _ => Procedure.touches_pure _

theorem touches_detach (channel : LinkChannel κ) (attachment : Device.Attachment) :
    Touches .links (detach channel attachment : Action κ φ Unit) := by
  apply Touches.bind (touches_requireIndex channel _ _)
  intro _
  apply Touches.bind (Procedure.touches_ask channel _)
  exact fun _ => Procedure.touches_inform (Apart.append (by decide) _)

end Topology

theorem Masquerade.touches_install (transport : Transport φ) (uplink : String) (cluster : Cidr) :
    Touches .filter (install transport uplink cluster : Action κ φ Unit) := by
  apply Touches.bind
  · intro host
    exact ⟨fun _ => rfl, fun _ => rfl, fun other => absurd rfl other, [],
      (List.append_nil _).symm, by simp⟩
  intro answers
  apply Touches.bind (Procedure.touches_ofExcept _)
  intro _
  apply Procedure.touches_inform
  repeat' apply Apart.append
  decide

namespace Lifecycle

open Procedure (KeepsFiles)

theorem keepsFiles_stepAt {α : Type} {step : Action κ φ α} (kept : KeepsFiles step)
    (invocation : Invocation) (stage : Stage) : KeepsFiles (stepAt invocation stage step) :=
  kept.onFailure fun _ => Procedure.keepsFiles_recordAll _

/-- Removing a container changes no file. -/
theorem keepsFiles_remove (channel : LinkChannel κ) (invocation : Invocation) :
    KeepsFiles (remove channel invocation : Action κ φ Unit) := by
  apply KeepsFiles.bind ((Topology.touches_detach channel _).keepsFiles (by decide))
  exact fun _ => Procedure.keepsFiles_inform _

end Lifecycle

end OverlayNet
