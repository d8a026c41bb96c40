import Mathlib
import OverlayNet.Proofs.Ledger.Issuing

set_option autoImplicit false

/-! # Acquisitions one after the other

The subnets of the node and of the cluster may change from one acquisition to the next. The
addresses count on all the same from the one that the ledger holds, around the end of the address
space, and each is read back from the text in which it was recorded. -/

namespace OverlayNet.Allocation

open Files (Location Tree)
open Files.Tree (SameDirectories)

variable {κ φ μ ψ : Type} {ledger : Ledger} {last? : Option Cidr}

/-- The subnets of a node and of the cluster. -/
structure Subnets where
  node : Cidr
  cluster : Cidr

/-- What is seen of an acquisition: its outcome, the content of the ledger behind it, the address
that is then the last one, and the warnings that it has logged. -/
structure Observation where
  outcome : Except Fault Cidr
  content : Except Os.Cause Bytes
  last? : Except Fault (Option Cidr)
  warnings : List LogEntry

def observe (ledger : Ledger) (subnets : Subnets) (host : Host κ φ) : Observation × Host κ φ :=
  let (outcome, later) := (acquire ledger subnets.node subnets.cluster).outcome host
  (⟨outcome, later.files.read ledger.path, ((lastIssued ledger).outcome later).1,
    (later.log.drop host.log.length).filter (·.severity = .warning)⟩, later)

/-- What is seen of acquisitions one after the other. -/
def observations (ledger : Ledger) : Host κ φ → List Subnets → List Observation
  | _, [] => []
  | host, subnets :: rest =>
      let (observation, later) := observe ledger subnets host
      observation :: observations ledger later rest

/-- What there is to see when an address is issued. -/
def Observation.ofIssued (node address : Cidr) : Observation :=
  ⟨.ok address, .ok (Bytes.ofText address.text), .ok (some address),
    Allocation.warnings node address⟩

/-- The address a number of places behind another one, with the prefix length of a network. -/
def numbered (start : Ipv4) (network : Cidr) (places : Nat) : Cidr :=
  ⟨start.advance (UInt32.ofNat places), network.prefixLength, network.prefixLength_le⟩

/-- Whether a ledger counts on from an address: the one that it stores, or that of the bridge of the
first node, if there is no ledger yet. -/
def CountsFrom (ledger : Ledger) (files : Tree) (sequence : List Subnets) (start : Ipv4) : Prop :=
  (files.find? ledger.path = none ∧
      ∀ subnets, sequence.head? = some subnets → start = subnets.node.network.advance 1) ∨
    ∃ content last, files.read ledger.path = .ok content ∧ Ledger.Stores content last ∧
      start = last.address

private theorem filter_remarks (node cluster : Cidr) (last? : Option Cidr) :
    (remarks node cluster last?).filter (·.severity = .warning) =
      warnings node (issued node cluster last?) := by
  simp only [remarks, warnings]
  split <;> split <;> rfl

private theorem lastIssued_of_holds {host : Host κ φ} (holds : Holds ledger last? host.files) :
    (lastIssued ledger).outcome host = (.ok last?, host) := by
  cases last? with
  | none =>
      exact Procedure.outcome_bind_ok (Procedure.outcome_readFiles_ok holds _) _
  | some last =>
      obtain ⟨text, stored, parsed⟩ := holds
      apply (Procedure.outcome_bind_ok (Procedure.outcome_readFiles_ok stored _) _).trans
      have read : Cidr.read text = .ok last := by rw [Cidr.read, parsed]; rfl
      exact Procedure.outcome_bind_ok
        ((Procedure.outcome_ofExcept (Cidr.read text) host).trans (by rw [read])) _

section Run

variable {host : Host κ φ} {location : Location}

/-- One step of a run, from a ledger that holds an address or is absent. -/
theorem observe_of_holds (holds : Holds ledger last? host.files)
    (writable : host.files.fileLocation ledger.path = .ok location)
    (lockable : Lockable ledger host.files) (subnets : Subnets) :
    ∃ later, observe ledger subnets host =
        (.ofIssued subnets.node (issued subnets.node subnets.cluster last?), later) ∧
      SameDirectories host.files later.files ∧
      Holds ledger (some (issued subnets.node subnets.cluster last?)) later.files := by
  obtain ⟨later, acquired, issuance⟩ :=
    holds.acquire_ok writable lockable subnets.node subnets.cluster
  have found := issuance.sameDirectories.fileLocation writable
  have records := issuance.records writable
  have held := records.holds found
  obtain ⟨mode, holdsText⟩ := records
  have read := Files.Tree.read_of_node? found holdsText
  refine ⟨later, ?_, issuance.sameDirectories, held⟩
  simp only [observe, acquired, read, lastIssued_of_holds held, issuance.log, List.drop_left',
    filter_remarks]
  rfl

private theorem issued_eq_numbered {start : Ipv4} (subnets : Subnets)
    (counts : (last?.getD (bridgeAddress subnets.node subnets.cluster)).address = start) :
    issued subnets.node subnets.cluster last? = numbered start subnets.cluster 1 := by
  rw [issued, successor_fst, numbered, ← counts]
  rfl

private theorem numbered_succ (start : Ipv4) (network : Cidr) (places : Nat) :
    numbered (start.advance 1) network places = numbered start network (places + 1) := by
  have sum : start.bits + 1 + UInt32.ofNat places = start.bits + UInt32.ofNat (places + 1) := by
    rw [UInt32.ofNat_add, UInt32.add_assoc, UInt32.add_comm 1]
    rfl
  simp only [numbered, Ipv4.advance, sum]

/-- A run counts on, one address for each acquisition. -/
theorem observations_of_holds {sequence : List Subnets} {start : Ipv4}
    (holds : Holds ledger last? host.files)
    (writable : host.files.fileLocation ledger.path = .ok location)
    (lockable : Lockable ledger host.files)
    (counts : ∀ subnets, sequence.head? = some subnets →
      (last?.getD (bridgeAddress subnets.node subnets.cluster)).address = start) :
    observations ledger host sequence = sequence.mapIdx fun index subnets =>
      .ofIssued subnets.node (numbered start subnets.cluster (index + 1)) := by
  induction sequence generalizing host last? start with
  | nil => rfl
  | cons subnets rest ih =>
      obtain ⟨later, observed, sameDirectories, held⟩ :=
        observe_of_holds holds writable lockable subnets
      have issued := issued_eq_numbered subnets (counts subnets rfl)
      rw [issued] at observed held
      have behind := ih held (sameDirectories.fileLocation writable)
        (lockable.of_sameDirectories sameDirectories) fun _ _ => rfl
      simp only [observations, observed, behind, List.mapIdx_cons]
      congr 2
      funext index other
      exact congrArg (Observation.ofIssued other.node)
        (numbered_succ start other.cluster (index + 1))

theorem CountsFrom.exists_holds {files : Tree} {sequence : List Subnets} {start : Ipv4}
    (counts : CountsFrom ledger files sequence start)
    (writable : files.fileLocation ledger.path = .ok location) :
    ∃ last?, Holds ledger last? files ∧ ∀ subnets, sequence.head? = some subnets →
      (last?.getD (bridgeAddress subnets.node subnets.cluster)).address = start := by
  rcases counts with ⟨absent, first⟩ | ⟨content, last, read, ⟨text, valid, parsed⟩, rfl⟩
  case inl =>
    have missing : files.node? location = none := by
      cases holds : files.node? location with
      | none => rfl
      | some node =>
          simp [Files.Tree.find?, Files.Tree.locate_of_fileLocation writable, holds] at absent
    have empty : Records location none files := missing
    exact ⟨none, empty.holds writable, fun subnets isFirst => (first subnets isFirst).symm⟩
  case inr =>
    exact ⟨some last, ⟨_, Ledger.storedIn_of_read read valid, parsed⟩, fun _ _ => rfl⟩

end Run

private theorem mapIdx_ofIssued_congr (start : Ipv4) {sequence other : List Subnets}
    (same : other.map (fun subnets => (subnets.node, subnets.cluster.prefixLength)) =
      sequence.map fun subnets => (subnets.node, subnets.cluster.prefixLength)) :
    other.mapIdx (fun index subnets =>
        Observation.ofIssued subnets.node (numbered start subnets.cluster (index + 1))) =
      sequence.mapIdx fun index subnets =>
        .ofIssued subnets.node (numbered start subnets.cluster (index + 1)) := by
  induction other generalizing start sequence with
  | nil =>
      obtain rfl := List.map_eq_nil_iff.mp same.symm
      rfl
  | cons subnets rest ih =>
      obtain ⟨twin, others, rfl, alike, behind⟩ := List.map_eq_cons_iff.mp same.symm
      obtain ⟨sameNode, sameLength⟩ := Prod.mk.inj alike
      have first : numbered start twin.cluster 1 = numbered start subnets.cluster 1 := by
        simp only [numbered, sameLength]
      have others := ih (start.advance 1) behind.symm
      simp only [numbered_succ] at others
      rw [List.mapIdx_cons, List.mapIdx_cons, first, sameNode, others]

/-- Behind a ledger that is absent or stores an address, acquisitions one after the other all
succeed. Each issues the address after the one before it, around the end of the address space, with
the prefix length of its cluster, records just the text of that address, which has no blank at its
end and is read back, and warns exactly if the address is outside the subnet of its node. Nothing
else has an influence on that: neither the prefix length that was stored, nor blanks behind it, nor
the address of the cluster. -/
theorem acquisitions_count_on (ledger : Ledger) (host : Host κ φ) (location : Location)
    (writable : host.files.fileLocation ledger.path = .ok location)
    (lockable : Lockable ledger host.files) (sequence : List Subnets) (start : Ipv4)
    (counts : CountsFrom ledger host.files sequence start) :
    observations ledger host sequence = sequence.mapIdx (fun index subnets =>
      .ofIssued subnets.node (numbered start subnets.cluster (index + 1))) ∧
    (∀ cidr : Cidr, Text.trimEnd cidr.text.toList = cidr.text.toList) ∧
    ∀ (otherLedger : Ledger) (otherHost : Host μ ψ) (place : Location)
      (otherSequence : List Subnets),
      otherHost.files.fileLocation otherLedger.path = .ok place →
      Lockable otherLedger otherHost.files →
      CountsFrom otherLedger otherHost.files otherSequence start →
      otherSequence.map (fun subnets => (subnets.node, subnets.cluster.prefixLength)) =
        sequence.map (fun subnets => (subnets.node, subnets.cluster.prefixLength)) →
      observations otherLedger otherHost otherSequence = observations ledger host sequence := by
  have counted : ∀ {γ δ : Type} {someLedger : Ledger} {someHost : Host γ δ} {somewhere : Location}
      {someSequence : List Subnets},
      someHost.files.fileLocation someLedger.path = .ok somewhere →
      Lockable someLedger someHost.files →
      CountsFrom someLedger someHost.files someSequence start →
      observations someLedger someHost someSequence = someSequence.mapIdx fun index subnets =>
        .ofIssued subnets.node (numbered start subnets.cluster (index + 1)) := by
    intro γ δ someLedger someHost somewhere someSequence found guarded begins
    obtain ⟨last?, holds, first⟩ := begins.exists_holds found
    exact observations_of_holds holds found guarded first
  refine ⟨counted writable lockable counts, Cidr.trimEnd_text, ?_⟩
  intro otherLedger otherHost place otherSequence otherWritable otherLockable otherCounts same
  rw [counted otherWritable otherLockable otherCounts, counted writable lockable counts]
  exact mapIdx_ofIssued_congr start same

/-- An address space that ends, with blanks behind the address that was issued last. -/
def spaciousHost : Host Unit Unit :=
  ⟨⟨[(["ledger"], .file (Bytes.ofText "255.255.255.254/8 \n") 0o644)], []⟩, (), (), []⟩

def plainHost : Host Unit Unit :=
  ⟨⟨[(["ledger"], .file (Bytes.ofText "255.255.255.254/30") 0o644)], []⟩, (), (), []⟩

def topSubnets : Subnets :=
  ⟨{ sampleNode with address := ⟨0xffffff00⟩ }, { sampleCluster with address := ⟨0xffff0000⟩ }⟩

/-- The same node in a cluster that is named by another address. -/
def renamedSubnets : Subnets :=
  ⟨topSubnets.node, { sampleCluster with address := ⟨0xffff1234⟩ }⟩

theorem acquisitions_count_on_around :
    observations ⟨⟨"ledger"⟩, true⟩ spaciousHost [topSubnets, topSubnets] =
      [.ofIssued topSubnets.node ⟨⟨0xffffffff⟩, 16, by decide⟩,
        .ofIssued topSubnets.node ⟨⟨0⟩, 16, by decide⟩] ∧
    observations ⟨⟨"ledger"⟩, false⟩ plainHost [topSubnets, renamedSubnets] =
      observations ⟨⟨"ledger"⟩, true⟩ spaciousHost [topSubnets, topSubnets] := by
  have spacious : CountsFrom ⟨⟨"ledger"⟩, true⟩ spaciousHost.files [topSubnets, topSubnets]
      ⟨0xfffffffe⟩ :=
    .inr ⟨_, ⟨⟨0xfffffffe⟩, 8, by decide⟩, by decide +kernel,
      ⟨"255.255.255.254/8 \n", Bytes.text?_ofText _, by decide +kernel⟩, rfl⟩
  have plain : CountsFrom ⟨⟨"ledger"⟩, false⟩ plainHost.files [topSubnets, renamedSubnets]
      ⟨0xfffffffe⟩ :=
    .inr ⟨_, ⟨⟨0xfffffffe⟩, 30, by decide⟩, by decide +kernel,
      ⟨"255.255.255.254/30", Bytes.text?_ofText _, by decide +kernel⟩, rfl⟩
  have lockable : Lockable ⟨⟨"ledger"⟩, true⟩ spaciousHost.files :=
    fun _ => ⟨["ledger.lock"], by decide +kernel⟩
  obtain ⟨counted, -, alike⟩ := @acquisitions_count_on Unit Unit Unit Unit ⟨⟨"ledger"⟩, true⟩
    spaciousHost ["ledger"] (by decide +kernel) lockable _ ⟨0xfffffffe⟩ spacious
  refine ⟨counted.trans ?_, alike _ plainHost ["ledger"] _ (by decide +kernel) nofun plain rfl⟩
  rfl

end OverlayNet.Allocation
