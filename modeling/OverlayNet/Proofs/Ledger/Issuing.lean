import Mathlib
import OverlayNet.Proofs.Address.TextReading
import OverlayNet.Proofs.Ledger.Updating

set_option autoImplicit false

/-! # Issuing addresses

An acquisition either fails and leaves the ledger as it was, or issues the address after the one
that is recorded and records that one. Then it logs whether the ledger was empty, and whether the
address is outside the subnet of the node. -/

namespace OverlayNet.Ipv4

/-- Fewer than all addresses are counted, so none comes round again. -/
theorem advance_injOn (address : Ipv4) {first second : Nat} (firstSmall : first < 2 ^ 32)
    (secondSmall : second < 2 ^ 32)
    (same : address.advance (UInt32.ofNat first) = address.advance (UInt32.ofNat second)) :
    first = second := by
  have sums : address.bits + UInt32.ofNat first = address.bits + UInt32.ofNat second :=
    congrArg Ipv4.bits same
  have words := congrArg UInt32.toNat ((UInt32.add_right_inj _).mp sums)
  rwa [UInt32.toNat_ofNat_of_lt' firstSmall, UInt32.toNat_ofNat_of_lt' secondSmall] at words

end OverlayNet.Ipv4

namespace OverlayNet.Allocation

open Files (Location Tree)
open Files.Tree (SameDirectories Spares)

variable {κ φ : Type}

/-- Whether a location holds nothing, or just the text of the address that was issued last. -/
def Records (location : Location) (last? : Option Cidr) (files : Tree) : Prop :=
  match last? with
  | none => files.node? location = none
  | some last => ∃ mode, files.node? location = some (.file (Bytes.ofText last.text) mode)

/-- The address that is issued next. -/
def issued (node cluster : Cidr) (last? : Option Cidr) : Cidr :=
  (successor node cluster (last?.getD (bridgeAddress node cluster))).1

variable {ledger : Ledger} {node cluster : Cidr} {location : Location} {last? : Option Cidr}
  {host later : Host κ φ}

theorem Records.of_spares {before after : Tree} (records : Records location last? before)
    (spares : Spares location before after) : Records location last? after := by
  cases last? with
  | none => exact spares.node.trans records
  | some last =>
      obtain ⟨mode, holds⟩ := records
      exact ⟨mode, spares.node.trans holds⟩

private theorem storedIn_of_records {files : Tree}
    (found : files.fileLocation ledger.path = .ok location)
    (records : Records location last? files) :
    ledger.storedIn files = .ok (last?.map Cidr.text) := by
  cases last? with
  | none =>
      have missing := Files.Tree.read_of_missing found records
      simp [Ledger.storedIn, Files.Tree.readText, missing, bind, Except.bind]
  | some last =>
      obtain ⟨mode, holds⟩ := records
      have content := Files.Tree.read_of_node? found holds
      simp [Ledger.storedIn, Files.Tree.readText, content, bind, Except.bind, Bytes.text?_ofText,
        Cidr.trimEnd_text]

theorem successor_fst (node cluster last : Cidr) :
    (successor node cluster last).1 = (last.offset 1).withPrefixOf cluster := by
  simp only [successor]
  split <;> rfl

theorem prefixLength_issued (node cluster : Cidr) (last? : Option Cidr) :
    (issued node cluster last?).prefixLength = cluster.prefixLength := by
  rw [issued, successor_fst]
  rfl

/-- Whether a ledger is absent, or stores a text that reads as the address that was issued last. -/
def Holds (ledger : Ledger) (last? : Option Cidr) (files : Tree) : Prop :=
  match last? with
  | none => ledger.storedIn files = .ok none
  | some last => ∃ text, ledger.storedIn files = .ok (some text) ∧ Cidr.parse text = .ok last

theorem Records.holds {files : Tree} (records : Records location last? files)
    (found : files.fileLocation ledger.path = .ok location) : Holds ledger last? files := by
  have stored := storedIn_of_records found records
  cases last? with
  | none => exact stored
  | some last => exact ⟨last.text, stored, Cidr.parse_text last⟩

theorem Holds.unique {other? : Option Cidr} {files : Tree} (first : Holds ledger last? files)
    (second : Holds ledger other? files) : last? = other? := by
  cases last? with
  | none => cases other? with
    | none => rfl
    | some other =>
        obtain ⟨text, stored, -⟩ := second
        cases first.symm.trans stored
  | some last =>
      obtain ⟨text, stored, parsed⟩ := first
      cases other? with
      | none => cases stored.symm.trans second
      | some other =>
          obtain ⟨otherText, otherStored, otherParsed⟩ := second
          obtain rfl := Option.some.inj (Except.ok.inj (stored.symm.trans otherStored))
          rw [Except.ok.inj (parsed.symm.trans otherParsed)]

/-- Whether the lock file can be opened, if the ledger has one. -/
def Lockable (ledger : Ledger) (files : Tree) : Prop :=
  ledger.locked = true → ∃ place, files.fileLocation ledger.lockPath = .ok place

theorem Lockable.of_sameDirectories {before after : Tree} (lockable : Lockable ledger before)
    (same : Files.Tree.SameDirectories before after) : Lockable ledger after := by
  intro locked
  obtain ⟨place, found⟩ := lockable locked
  exact ⟨place, same.fileLocation found⟩

section Logging

/-- The notice that there was no address to count on from. -/
def seedingNotice (node : Cidr) : LogEntry :=
  ⟨.info, "IP ledger is empty, seeding from node subnet " ++ node.text⟩

/-- The warning about an address outside the subnet of the node. -/
def outsideWarning (node address : Cidr) : LogEntry :=
  ⟨.warning, "Allocated address " ++ address.text ++ " is outside node subnet " ++ node.text⟩

/-- The warnings that come with an address. -/
def warnings (node address : Cidr) : List LogEntry :=
  if node.contains address.address then [] else [outsideWarning node address]

/-- What is logged with the address that is issued next. -/
def remarks (node cluster : Cidr) (last? : Option Cidr) : List LogEntry :=
  (if last?.isNone then [seedingNotice node] else []) ++
    warnings node (issued node cluster last?)

private theorem successor_eq (node cluster last : Cidr) :
    successor node cluster last =
      (issued node cluster (some last), warnings node (issued node cluster (some last))) := by
  simp only [issued, Option.getD_some, warnings, successor]
  split <;> rfl

/-- What is decided on, given a ledger that holds an address or is absent. -/
theorem Holds.decision {files : Tree} (holds : Holds ledger last? files) (node cluster : Cidr) :
    ∃ stored?, ledger.storedIn files = .ok stored? ∧
      Allocation.next node cluster stored? =
        ⟨remarks node cluster last?, .ok (issued node cluster last?).text⟩ := by
  cases last? with
  | none =>
      refine ⟨none, holds, ?_⟩
      simp only [Allocation.next, successor_eq]
      rfl
  | some last =>
      obtain ⟨text, stored, parsed⟩ := holds
      refine ⟨some text, stored, ?_⟩
      simp only [Allocation.next, Cidr.read, parsed, Except.mapError, successor_eq]
      rfl

/-- Only a ledger that holds an address or is absent lets an address be decided on. -/
theorem exists_holds {files : Tree} {stored? : Option String} {text : String}
    (stored : ledger.storedIn files = .ok stored?)
    (decided : (next node cluster stored?).outcome = .ok text) :
    ∃ last?, Holds ledger last? files := by
  cases stored? with
  | none => exact ⟨none, stored⟩
  | some raw =>
      cases parsed : Cidr.parse raw with
      | ok last => exact ⟨some last, raw, stored, parsed⟩
      | error defect => simp [next, Cidr.read, parsed, Except.mapError] at decided

end Logging

section Outcomes

/-- Everything that an acquisition does that succeeds. -/
structure Issuance (ledger : Ledger) (node cluster : Cidr) (last? : Option Cidr)
    (before after : Host κ φ) : Prop where
  holds : Holds ledger last? before.files
  log : after.log = before.log ++ remarks node cluster last?
  written : ∃ files, ledger.Guarded before.files files ∧
    files.write ledger.path (Bytes.ofText (issued node cluster last?).text) = .ok after.files

/-- What an acquisition issues whose update succeeds, and what it does besides. -/
theorem issuance_of_update {text : String}
    (updated : (ledger.update (next node cluster)).outcome host = (.ok text, later)) :
    ∃ last?, (acquire ledger node cluster).outcome host =
        (.ok (issued node cluster last?), later) ∧
      Issuance ledger node cluster last? host later := by
  obtain ⟨files, stored?, guarded, stored, decided, written, log⟩ := Ledger.update_ok updated
  obtain ⟨last?, holds⟩ := exists_holds stored decided
  obtain ⟨other, otherStored, decision⟩ := holds.decision node cluster
  obtain rfl := Except.ok.inj (stored.symm.trans otherStored)
  rw [decision] at decided log
  obtain rfl := Except.ok.inj decided
  refine ⟨last?, ?_, holds, log, files, guarded, written⟩
  apply (Procedure.outcome_bind_ok updated _).trans
  rw [Procedure.outcome_ofExcept, Cidr.read_text]

theorem issuance_of_ok {address : Cidr}
    (acquired : (acquire ledger node cluster).outcome host = (.ok address, later)) :
    ∃ last?, address = issued node cluster last? ∧
      Issuance ledger node cluster last? host later := by
  rcases updated : (ledger.update (next node cluster)).outcome host with ⟨result, middle⟩
  cases result with
  | error fault => cases acquired.symm.trans (Procedure.outcome_bind_error updated _)
  | ok text =>
      obtain ⟨last?, finished, issuance⟩ := issuance_of_update updated
      obtain ⟨same, rfl⟩ := Prod.mk.inj (acquired.symm.trans finished)
      exact ⟨last?, Except.ok.inj same, issuance⟩

/-- A ledger that holds an address or is absent, at a path that can be written, lets the next
address be issued. -/
theorem Holds.acquire_ok (holds : Holds ledger last? host.files)
    (writable : host.files.fileLocation ledger.path = .ok location)
    (lockable : Lockable ledger host.files) (node cluster : Cidr) :
    ∃ later, (acquire ledger node cluster).outcome host =
        (.ok (issued node cluster last?), later) ∧
      Issuance ledger node cluster last? host later := by
  obtain ⟨stored?, stored, decision⟩ := holds.decision node cluster
  have decided : (Allocation.next node cluster stored?).outcome =
      .ok (issued node cluster last?).text := by
    rw [decision]
  obtain ⟨later, updated⟩ :=
    Ledger.exists_update_ok_iff.mpr ⟨lockable, ⟨stored?, stored, decided⟩, location, writable⟩
  obtain ⟨other?, acquired, issuance⟩ := issuance_of_update updated
  obtain rfl := holds.unique issuance.holds
  exact ⟨later, acquired, issuance⟩

theorem Issuance.sameDirectories (issuance : Issuance ledger node cluster last? host later) :
    SameDirectories host.files later.files := by
  obtain ⟨files, guarded, written⟩ := issuance.written
  exact (guarded.replaced written).1

/-- The ledger behind an acquisition holds just the text of the address that was issued. -/
theorem Issuance.records (issuance : Issuance ledger node cluster last? host later)
    (found : host.files.fileLocation ledger.path = .ok location) :
    Records location (some (issued node cluster last?)) later.files := by
  obtain ⟨files, guarded, written⟩ := issuance.written
  obtain ⟨-, place, replaced⟩ := guarded.replaced written
  obtain rfl := Except.ok.inj (found.symm.trans replaced.found)
  exact ⟨_, replaced.holds⟩

/-- An acquisition that fails does not touch the ledger. -/
theorem spares_of_acquire_error {fault : Fault}
    (found : host.files.fileLocation ledger.path = .ok location)
    (failed : (acquire ledger node cluster).outcome host = (.error fault, later)) :
    Spares location host.files later.files := by
  rcases updated : (ledger.update (next node cluster)).outcome host with ⟨result, middle⟩
  cases result with
  | error other =>
      obtain ⟨-, rfl⟩ := Prod.mk.inj
        (failed.symm.trans (Procedure.outcome_bind_error updated _))
      rcases Ledger.update_error updated with unchanged | guarded
      · rw [unchanged]
        exact .refl host.files
      · exact ⟨guarded.sameDirectories, guarded.node? found⟩
  | ok text =>
      obtain ⟨last?, finished, -⟩ := issuance_of_update updated
      cases failed.symm.trans finished

/-- An acquisition fails without touching the ledger, or issues the next address and records it. -/
theorem acquire_step (node cluster : Cidr)
    (found : host.files.fileLocation ledger.path = .ok location)
    (records : Records location last? host.files) :
    (∃ fault later, (acquire ledger node cluster).outcome host = (.error fault, later) ∧
        Spares location host.files later.files) ∨
      ∃ later,
        (acquire ledger node cluster).outcome host = (.ok (issued node cluster last?), later) ∧
          SameDirectories host.files later.files ∧
          Records location (some (issued node cluster last?)) later.files := by
  rcases acquired : (acquire ledger node cluster).outcome host with ⟨result, later⟩
  cases result with
  | error fault => exact .inl ⟨fault, later, rfl, spares_of_acquire_error found acquired⟩
  | ok address =>
      obtain ⟨other?, rfl, issuance⟩ := issuance_of_ok acquired
      obtain rfl := (records.holds found).unique issuance.holds
      exact .inr ⟨later, rfl, issuance.sameDirectories, issuance.records found⟩

end Outcomes

def sampleNode : Cidr := ⟨⟨0x0a200100⟩, 24, by decide⟩

def sampleCluster : Cidr := ⟨⟨0x0a200000⟩, 16, by decide⟩

end OverlayNet.Allocation
