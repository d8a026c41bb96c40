import Mathlib
import OverlayNet.Link.DeviceTable
import OverlayNet.Proofs.Ledger.Issuing
import OverlayNet.Proofs.Lifecycle.UntouchedParts

set_option autoImplicit false

/-! # Addresses over runs of commands

Over every run of additions and removals on one ledger, whatever fails in them, the addresses are
issued one after the other, and no two containers are told the same one. -/

namespace OverlayNet.Lifecycle

open Files (Location Tree)
open Files.Tree (SameDirectories Spares)
open Allocation (Records issued bridgeAddress prefixLength_issued)
open Ipv4 (advance_injOn)
open Procedure (KeepsFiles)

variable {κ φ : Type} {location : Location} {last? : Option Cidr}

section Preparation

/-- Whether no setting of the host is written where the ledger is. -/
def SettingsApart (location : Location) (settingsRoot : Option Path) (files : Tree) : Prop :=
  ∀ root, settingsRoot = some root → ∀ setting ∈ BridgeFilter.settings,
    files.fileLocation (root.join setting) ≠ .ok location

private theorem SettingsApart.of_sameDirectories {settingsRoot : Option Path} {before after : Tree}
    (apart : SettingsApart location settingsRoot before) (same : SameDirectories before after) :
    SettingsApart location settingsRoot after :=
  fun root isRoot setting member found =>
    apart root isRoot setting member (same.symm.fileLocation found)

theorem ensures_turnOn {host : Host κ φ} {setting : Path}
    (apart : host.files.fileLocation setting ≠ .ok location) :
    Procedure.Ensures (BridgeFilter.turnOn setting)
      (fun _ later => Spares location host.files later.files)
      (fun _ later => Spares location host.files later.files) host := by
  unfold BridgeFilter.turnOn
  cases written : host.files.write setting (Bytes.ofText "1\n") with
  | error cause =>
      rw [Procedure.ensures_of_error (Procedure.outcome_changeFiles_error written _)]
      exact .refl host.files
  | ok files =>
      rw [Procedure.ensures_of_ok (Procedure.outcome_changeFiles_ok written _)]
      apply Files.Tree.spares_of_write written
      intro other found same
      exact apart (same ▸ found)

theorem ensures_forM_turnOn {root : Path} (settings : List String) {host : Host κ φ}
    (apart : ∀ setting ∈ settings, host.files.fileLocation (root.join setting) ≠ .ok location) :
    Procedure.Ensures (settings.forM fun setting => BridgeFilter.turnOn (root.join setting))
      (fun _ later => Spares location host.files later.files)
      (fun _ later => Spares location host.files later.files) host := by
  induction settings generalizing host with
  | nil => exact .refl host.files
  | cons first rest ih =>
      apply Procedure.ensures_bind.mpr
      apply (ensures_turnOn (apart first List.mem_cons_self)).mono
      · intro _ middle spares
        have restApart : ∀ setting ∈ rest,
            middle.files.fileLocation (root.join setting) ≠ .ok location :=
          fun setting member found => apart setting (List.mem_cons_of_mem _ member)
            (spares.directories.symm.fileLocation found)
        apply (ih restApart).mono
        · exact fun _ _ more => spares.trans more
        · exact fun _ _ more => spares.trans more
      · exact fun _ _ spares => spares

/-- What is done to the host before an address is issued. -/
def prepare (settingsRoot : Option Path) : Action κ φ Unit :=
  match settingsRoot with
  | some root => BridgeFilter.enable root
  | none => pure ()

theorem ensures_prepare {settingsRoot : Option Path} {host : Host κ φ}
    (apart : SettingsApart location settingsRoot host.files) :
    Procedure.Ensures (prepare settingsRoot)
      (fun _ later => Spares location host.files later.files)
      (fun _ later => Spares location host.files later.files) host := by
  cases settingsRoot with
  | none => exact .refl host.files
  | some root =>
      apply Procedure.ensures_bind.mpr
      apply (ensures_forM_turnOn BridgeFilter.settings (apart root rfl)).mono
      · exact fun _ _ spares => spares
      · exact fun _ _ spares => spares

end Preparation

theorem outcome_acquireAddresses {configuration : NetworkConfiguration} {node cluster : Cidr}
    (nodeRead : configuration.nodeSubnet = .ok node)
    (clusterRead : configuration.clusterSubnet = .ok cluster) (settingsRoot : Option Path)
    (host : Host κ φ) :
    (acquireAddresses configuration settingsRoot).outcome host =
      Procedure.outcome (do
        prepare settingsRoot
        let container ← Allocation.acquire configuration.ledger node cluster
        pure (cluster, container, bridgeAddress node cluster)) host := by
  unfold acquireAddresses
  rw [nodeRead, clusterRead]
  cases settingsRoot with
  | none => rfl
  | some root => rfl

/-- Acquiring the addresses fails without touching the ledger, or issues the next address and
records it. -/
theorem acquireAddresses_step {configuration : NetworkConfiguration} {node : Cidr}
    {settingsRoot : Option Path} {host : Host κ φ}
    (nodeRead : configuration.nodeSubnet = .ok node)
    (found : host.files.fileLocation configuration.ledger.path = .ok location)
    (records : Records location last? host.files)
    (apart : SettingsApart location settingsRoot host.files) :
    (∃ fault later,
        (acquireAddresses configuration settingsRoot).outcome host = (.error fault, later) ∧
          Spares location host.files later.files) ∨
      ∃ cluster later, configuration.clusterSubnet = .ok cluster ∧
        (acquireAddresses configuration settingsRoot).outcome host =
          (.ok (cluster, issued node cluster last?, bridgeAddress node cluster), later) ∧
        SameDirectories host.files later.files ∧
        Records location (some (issued node cluster last?)) later.files := by
  cases clusterRead : configuration.clusterSubnet with
  | error fault =>
      left
      refine ⟨fault, host, ?_, .refl host.files⟩
      unfold acquireAddresses
      rw [nodeRead, clusterRead]
      rfl
  | ok cluster =>
      rw [outcome_acquireAddresses nodeRead clusterRead]
      rcases (ensures_prepare apart).cases with ⟨fault, middle, failed, spares⟩ | prepared
      · left
        exact ⟨fault, middle, Procedure.outcome_bind_error failed _, spares⟩
      · obtain ⟨value, middle, done, spares⟩ := prepared
        rw [Procedure.outcome_bind_ok done]
        have acquisition := Allocation.acquire_step node cluster
          (spares.directories.fileLocation found) (records.of_spares spares)
        cases acquisition with
        | inl refused =>
            obtain ⟨fault, later, failed, kept⟩ := refused
            left
            exact ⟨fault, later, Procedure.outcome_bind_error failed _, spares.trans kept⟩
        | inr acquired =>
            obtain ⟨later, done, same, recorded⟩ := acquired
            right
            exact ⟨cluster, later, rfl, Procedure.outcome_bind_ok done _,
              spares.directories.trans same, recorded⟩

/-- What is left of an addition once the addresses are acquired. -/
def establish (channel : LinkChannel κ) (transport : Masquerade.Transport φ)
    (configuration : NetworkConfiguration) (invocation : Invocation)
    (addresses : Cidr × Cidr × Cidr) : Action κ φ Response.Result := do
  let (cluster, container, bridge) := addresses
  reach invocation .unattached .addressAcquired
  let wiring : Wiring := ⟨invocation.attachment, container, bridge, configuration.uplink⟩
  let names ←
    stepAt invocation .addressAcquired (configuration.topology.attach channel wiring)
  reach invocation .addressAcquired .topologyWired
  stepAt invocation .topologyWired
    (Masquerade.install transport configuration.uplink cluster)
  reach invocation .topologyWired .natInstalled
  reach invocation .natInstalled .ready
  pure (report configuration invocation.attachment names container bridge)

theorem add_eq (channel : LinkChannel κ) (transport : Masquerade.Transport φ)
    (configuration : NetworkConfiguration) (settingsRoot : Option Path)
    (invocation : Invocation) :
    add channel transport configuration settingsRoot invocation =
      stepAt invocation .unattached (acquireAddresses configuration settingsRoot) >>=
        establish channel transport configuration invocation :=
  rfl

theorem keepsFiles_establish (channel : LinkChannel κ) (transport : Masquerade.Transport φ)
    (configuration : NetworkConfiguration) (invocation : Invocation)
    (addresses : Cidr × Cidr × Cidr) :
    KeepsFiles (establish channel transport configuration invocation addresses) := by
  apply KeepsFiles.bind (Procedure.keepsFiles_inform _)
  intro _
  apply KeepsFiles.bind
  · exact keepsFiles_stepAt ((Topology.touches_attach _ channel _).keepsFiles (by decide)) _ _
  intro names
  apply KeepsFiles.bind (Procedure.keepsFiles_inform _)
  intro _
  apply KeepsFiles.bind
  · exact keepsFiles_stepAt ((Masquerade.touches_install transport _ _).keepsFiles (by decide)) _ _
  intro _
  apply KeepsFiles.bind (Procedure.keepsFiles_inform _)
  intro _
  apply KeepsFiles.bind (Procedure.keepsFiles_inform _)
  exact fun _ => Procedure.keepsFiles_pure _

/-- A success reports the addresses that were acquired. -/
theorem ensures_establish (channel : LinkChannel κ) (transport : Masquerade.Transport φ)
    (configuration : NetworkConfiguration) (invocation : Invocation)
    (cluster container bridge : Cidr) (host : Host κ φ) :
    Procedure.Ensures
      (establish channel transport configuration invocation (cluster, container, bridge))
      (fun result _ => ∃ names,
        result = report configuration invocation.attachment names container bridge)
      (fun _ _ => True) host := by
  apply Procedure.ensures_bind_of_forall
  intro _ _
  apply Procedure.ensures_bind_of_forall
  intro names _
  apply Procedure.ensures_bind_of_forall
  intro _ _
  apply Procedure.ensures_bind_of_forall
  intro _ _
  apply Procedure.ensures_bind_of_forall
  intro _ _
  apply Procedure.ensures_bind_of_forall
  intro _ _
  exact ⟨names, rfl⟩

/-- A command of a run: an addition, with whatever answers its requests and its batches, or a
removal. -/
inductive Errand (κ φ : Type) where
  | add (channel : LinkChannel κ) (transport : Masquerade.Transport φ)
      (configuration : NetworkConfiguration) (settingsRoot : Option Path) (invocation : Invocation)
  | remove (channel : LinkChannel κ) (invocation : Invocation)

namespace Errand

def after (host : Host κ φ) : Errand κ φ → Host κ φ
  | .add channel transport configuration settingsRoot invocation =>
      ((Lifecycle.add channel transport configuration settingsRoot invocation).outcome host).2
  | .remove channel invocation => ((Lifecycle.remove channel invocation).outcome host).2

/-- The address that a command consumes, if it gets past the acquisition of addresses. -/
def issued? (host : Host κ φ) : Errand κ φ → Option Cidr
  | .add _ _ configuration settingsRoot _ =>
      match ((acquireAddresses configuration settingsRoot).outcome host).1 with
      | .ok (_, container, _) => some container
      | .error _ => none
  | .remove _ _ => none

def result? (host : Host κ φ) : Errand κ φ → Option Response.Result
  | .add channel transport configuration settingsRoot invocation =>
      ((Lifecycle.add channel transport configuration settingsRoot invocation).outcome
        host).1.toOption
  | .remove _ _ => none

/-- The network of the cluster, in an addition that has one. -/
def cluster? : Errand κ φ → Option Cidr
  | .add _ _ configuration _ _ => configuration.clusterSubnet.toOption
  | .remove _ _ => none

def isAddition : Errand κ φ → Bool
  | .add _ _ _ _ _ => true
  | .remove _ _ => false

/-- Whether a command uses the ledger at a path for the subnet of a node, and writes no setting of
the host there. -/
def Regular (path : Path) (node : Cidr) (location : Location) (files : Tree) :
    Errand κ φ → Prop
  | .add _ _ configuration settingsRoot _ =>
      configuration.ledger.path = path ∧ configuration.nodeSubnet = .ok node ∧
        SettingsApart location settingsRoot files
  | .remove _ _ => True

end Errand

/-- The host behind commands, one after the other. -/
def run (host : Host κ φ) (errands : List (Errand κ φ)) : Host κ φ :=
  errands.foldl Errand.after host

/-- The addresses that commands consume, in order. -/
def issues (host : Host κ φ) : List (Errand κ φ) → List Cidr
  | [] => []
  | errand :: rest => (errand.issued? host).toList ++ issues (errand.after host) rest

/-- The results of the additions that succeed, in order. -/
def results (host : Host κ φ) : List (Errand κ φ) → List Response.Result
  | [] => []
  | errand :: rest => (errand.result? host).toList ++ results (errand.after host) rest

/-- The address and the gateway that a result tells the runtime. -/
def told? (result : Response.Result) : Option (Ipv4 × Ipv4) := do
  let entry ← (result.addresses.getD []).head?
  let container ← (Cidr.parse entry.address).toOption
  let gateway ← entry.gateway.bind Ipv4.ofText?
  pure (container.address, gateway)

private theorem told?_report (configuration : NetworkConfiguration) (attachment : Device.Attachment)
    (names : Device.Names) (container bridge : Cidr) :
    told? (report configuration attachment names container bridge) =
      some (container.address, bridge.address) := by
  simp [told?, report, Response.Result.addAddress, Response.Result.addRoute,
    Response.Result.addInterface, Response.Result.empty, Cidr.parse_text, Except.toOption,
    Ipv4.ofText?_text]

/-- The address from which the next one is counted. -/
def lastAddress (node : Cidr) : Option Cidr → Ipv4
  | none => node.network.advance 1
  | some last => last.address

private theorem address_issued (node cluster : Cidr) (last? : Option Cidr) :
    (issued node cluster last?).address = (lastAddress node last?).advance 1 := by
  rw [issued, Allocation.successor_fst]
  cases last? with
  | none => rfl
  | some last => rfl

private theorem advance_succ (address : Ipv4) (count : Nat) :
    (address.advance (UInt32.ofNat count)).advance 1 =
      address.advance (UInt32.ofNat (count + 1)) := by
  simp [Ipv4.advance, UInt32.ofNat_add, UInt32.add_assoc]

/-- How far a run has come after it has consumed a number of addresses. -/
structure Progress (node : Cidr) (location : Location) (start : Tree) (count : Nat)
    (host : Host κ φ) : Prop where
  directories : SameDirectories start host.files
  recorded : ∃ last?, Records location last? host.files ∧
    lastAddress node last? = node.network.advance (UInt32.ofNat (1 + count))

section Step

variable {path : Path} {node : Cidr} {start : Tree} {count : Nat} {host : Host κ φ}

theorem outcome_add_of_error {configuration : NetworkConfiguration} {settingsRoot : Option Path}
    {fault : Fault} {later : Host κ φ}
    (failed : (acquireAddresses configuration settingsRoot).outcome host = (.error fault, later))
    (channel : LinkChannel κ) (transport : Masquerade.Transport φ) (invocation : Invocation) :
    ∃ logged : Host κ φ,
      (add channel transport configuration settingsRoot invocation).outcome host =
          (.error fault, logged) ∧
        logged.files = later.files := by
  have step : ∃ logged : Host κ φ,
      (stepAt invocation .unattached (acquireAddresses configuration settingsRoot)).outcome host =
          (.error fault, logged) ∧
        logged.files = later.files :=
    ⟨_, (Procedure.outcome_onFailure_error failed _).trans
      (Procedure.outcome_bind_ok (Procedure.outcome_recordAll _ later) _), rfl⟩
  obtain ⟨logged, stopped, files⟩ := step
  exact ⟨logged, Procedure.outcome_bind_error stopped _, files⟩

theorem outcome_add_of_ok {configuration : NetworkConfiguration} {settingsRoot : Option Path}
    {addresses : Cidr × Cidr × Cidr} {later : Host κ φ}
    (done : (acquireAddresses configuration settingsRoot).outcome host = (.ok addresses, later))
    (channel : LinkChannel κ) (transport : Masquerade.Transport φ) (invocation : Invocation) :
    (add channel transport configuration settingsRoot invocation).outcome host =
      (establish channel transport configuration invocation addresses).outcome later := by
  rw [add_eq]
  exact Procedure.outcome_bind_ok (Procedure.outcome_onFailure_ok done _) _

/-- What a command does that consumes an address. -/
structure Consumes (node : Cidr) (location : Location) (count : Nat) (host : Host κ φ)
    (errand : Errand κ φ) (address : Cidr) : Prop where
  issued : errand.issued? host = some address
  next : address.address = node.network.advance (UInt32.ofNat (1 + (count + 1)))
  cluster : errand.cluster?.map Cidr.prefixLength = some address.prefixLength
  directories : SameDirectories host.files (errand.after host).files
  recorded : Records location (some address) (errand.after host).files
  told : ∀ result, errand.result? host = some result →
    told? result = some (address.address, node.network.advance 1)

/-- What a command does that consumes no address. -/
structure Refrains (location : Location) (host : Host κ φ) (errand : Errand κ φ) : Prop where
  issued : errand.issued? host = none
  spares : Spares location host.files (errand.after host).files
  result : errand.result? host = none

private theorem told?_of_establish {channel : LinkChannel κ} {transport : Masquerade.Transport φ}
    {configuration : NetworkConfiguration} {invocation : Invocation}
    {cluster container bridge : Cidr} {later final : Host κ φ} {result : Response.Result}
    (ended : (establish channel transport configuration invocation
      (cluster, container, bridge)).outcome later = (.ok result, final)) :
    told? result = some (container.address, bridge.address) := by
  have reported := ensures_establish channel transport configuration invocation cluster container
    bridge later
  obtain ⟨names, rfl⟩ := (Procedure.ensures_of_ok ended).mp reported
  exact told?_report configuration invocation.attachment names container bridge

section Addition

variable {channel : LinkChannel κ} {transport : Masquerade.Transport φ}
  {configuration : NetworkConfiguration} {settingsRoot : Option Path} {invocation : Invocation}

private theorem refrains_of_error {fault : Fault} {later : Host κ φ}
    (failed : (acquireAddresses configuration settingsRoot).outcome host = (.error fault, later))
    (spares : Spares location host.files later.files) :
    Refrains location host
      (.add channel transport configuration settingsRoot invocation) := by
  obtain ⟨logged, added, files⟩ := outcome_add_of_error failed channel transport invocation
  constructor
  case issued => simp [Errand.issued?, failed]
  case spares => simpa [Errand.after, added, files] using spares
  case result => simp [Errand.result?, added, Except.toOption]

private theorem consumes_of_ok {cluster : Cidr} {later : Host κ φ}
    (last : lastAddress node last? = node.network.advance (UInt32.ofNat (1 + count)))
    (clusterRead : configuration.clusterSubnet = .ok cluster)
    (done : (acquireAddresses configuration settingsRoot).outcome host =
      (.ok (cluster, issued node cluster last?, bridgeAddress node cluster), later))
    (same : SameDirectories host.files later.files)
    (recorded : Records location (some (issued node cluster last?)) later.files) :
    Consumes node location count host
      (.add channel transport configuration settingsRoot invocation)
      (issued node cluster last?) := by
  have added := outcome_add_of_ok done channel transport invocation
  have files := keepsFiles_establish channel transport configuration invocation
    (cluster, issued node cluster last?, bridgeAddress node cluster) later
  constructor
  case issued => simp [Errand.issued?, done]
  case next =>
    rw [address_issued, last, advance_succ]
    rfl
  case cluster => simp [Errand.cluster?, clusterRead, Except.toOption, prefixLength_issued]
  case directories => simpa [Errand.after, added, files] using same
  case recorded => simpa [Errand.after, added, files] using recorded
  case told =>
    intro result succeeded
    simp only [Errand.result?, added] at succeeded
    rcases ended : (establish channel transport configuration invocation
      (cluster, issued node cluster last?, bridgeAddress node cluster)).outcome later
        with ⟨outcome, final⟩
    rw [ended] at succeeded
    cases outcome with
    | error fault => cases succeeded
    | ok value =>
        obtain rfl := Option.some.inj succeeded
        exact told?_of_establish ended

end Addition

/-- A command leaves the ledger alone, or consumes the next address. -/
theorem Progress.step (progress : Progress node location start count host)
    (writable : start.fileLocation path = .ok location) {errand : Errand κ φ}
    (regular : errand.Regular path node location start) :
    Refrains location host errand ∨
      ∃ address, Consumes node location count host errand address := by
  obtain ⟨directories, last?, records, last⟩ := progress
  cases errand with
  | remove channel invocation =>
      left
      refine ⟨rfl, ?_, rfl⟩
      have kept := keepsFiles_remove (φ := φ) channel invocation host
      rw [Errand.after, kept]
      exact .refl host.files
  | add channel transport configuration settingsRoot invocation =>
      obtain ⟨rfl, nodeRead, apart⟩ := regular
      have acquisition := acquireAddresses_step nodeRead (directories.fileLocation writable) records
        (apart.of_sameDirectories directories)
      cases acquisition with
      | inl refused =>
          obtain ⟨fault, later, failed, spares⟩ := refused
          left
          exact refrains_of_error failed spares
      | inr acquired =>
          obtain ⟨cluster, later, clusterRead, done, same, recorded⟩ := acquired
          right
          exact ⟨issued node cluster last?, consumes_of_ok last clusterRead done same recorded⟩

theorem Progress.after (progress : Progress node location start count host)
    (writable : start.fileLocation path = .ok location) {errand : Errand κ φ}
    (regular : errand.Regular path node location start) :
    Progress node location start (count + (errand.issued? host).toList.length)
      (errand.after host) := by
  rcases progress.step writable regular with refrains | ⟨address, consumes⟩
  · obtain ⟨last?, records, last⟩ := progress.recorded
    rw [refrains.issued]
    exact ⟨progress.directories.trans refrains.spares.directories, last?,
      records.of_spares refrains.spares, last⟩
  · rw [consumes.issued]
    exact ⟨progress.directories.trans consumes.directories, some address, consumes.recorded,
      consumes.next⟩

theorem Progress.run (progress : Progress node location start count host)
    (writable : start.fileLocation path = .ok location) {errands : List (Errand κ φ)}
    (regular : ∀ errand ∈ errands, errand.Regular path node location start) :
    Progress node location start (count + (issues host errands).length) (run host errands) := by
  induction errands generalizing host count with
  | nil => exact progress
  | cons first rest ih =>
      have next := progress.after writable (regular first List.mem_cons_self)
      have later := ih next fun errand member => regular errand (List.mem_cons_of_mem _ member)
      simpa [issues, Lifecycle.run, Nat.add_assoc] using later

/-- The addresses of a run follow each other without a gap. -/
theorem Progress.issues (progress : Progress node location start count host)
    (writable : start.fileLocation path = .ok location) {errands : List (Errand κ φ)}
    (regular : ∀ errand ∈ errands, errand.Regular path node location start) :
    (issues host errands).map Cidr.address =
      (List.range' count (issues host errands).length).map fun earlier =>
        node.network.advance (UInt32.ofNat (1 + (earlier + 1))) := by
  induction errands generalizing host count with
  | nil => rfl
  | cons first rest ih =>
      have next := progress.after writable (regular first List.mem_cons_self)
      have later := ih next fun errand member => regular errand (List.mem_cons_of_mem _ member)
      rcases progress.step writable (regular first List.mem_cons_self) with
        refrains | ⟨address, consumes⟩
      · simpa [Lifecycle.issues, refrains.issued] using later
      · simp only [consumes.issued, Option.toList_some, List.length_singleton] at later
        simp [Lifecycle.issues, consumes.issued, consumes.next, later, List.range'_succ]

/-- What the runtime is told is among the addresses that were consumed, in their order. -/
theorem Progress.told (progress : Progress node location start count host)
    (writable : start.fileLocation path = .ok location) {errands : List (Errand κ φ)}
    (regular : ∀ errand ∈ errands, errand.Regular path node location start) :
    ∃ reported : List Ipv4, reported.Sublist ((Lifecycle.issues host errands).map Cidr.address) ∧
      (results host errands).map told? =
        reported.map fun address => some (address, node.network.advance 1) := by
  induction errands generalizing host count with
  | nil => exact ⟨[], List.Sublist.refl _, rfl⟩
  | cons first rest ih =>
      have next := progress.after writable (regular first List.mem_cons_self)
      obtain ⟨reported, sublist, told⟩ :=
        ih next fun errand member => regular errand (List.mem_cons_of_mem _ member)
      rcases progress.step writable (regular first List.mem_cons_self) with
        refrains | ⟨address, consumes⟩
      · refine ⟨reported, ?_, ?_⟩
        · simpa [Lifecycle.issues, refrains.issued] using sublist
        · simpa [results, refrains.result] using told
      · cases succeeded : first.result? host with
        | none =>
            refine ⟨reported, ?_, ?_⟩
            · simpa [Lifecycle.issues, consumes.issued] using sublist.cons address.address
            · simpa [results, succeeded] using told
        | some result =>
            refine ⟨address.address :: reported, ?_, ?_⟩
            · simpa [Lifecycle.issues, consumes.issued] using sublist
            · simpa [results, succeeded, consumes.told result succeeded] using told

private theorem length_issues_le (host : Host κ φ) (errands : List (Errand κ φ)) :
    (issues host errands).length ≤ errands.countP Errand.isAddition := by
  induction errands generalizing host with
  | nil => exact Nat.le_refl 0
  | cons first rest ih =>
      have later := ih (first.after host)
      cases first with
      | remove channel invocation =>
          simpa [issues, Errand.issued?, Errand.isAddition] using later
      | add channel transport configuration settingsRoot invocation =>
          have atMostOne : ((Errand.add channel transport configuration settingsRoot
              invocation).issued? host).toList.length ≤ 1 := by
            cases Errand.issued? host (.add channel transport configuration settingsRoot
              invocation) with
            | none => exact Nat.zero_le 1
            | some address => exact Nat.le_refl 1
          rw [issues, List.length_append, List.countP_cons_of_pos rfl]
          omega

end Step

private theorem progress_start {path : Path} {start : Host κ φ}
    (writable : start.files.fileLocation path = .ok location)
    (absent : start.files.find? path = none) (node : Cidr) :
    Progress node location start.files 0 start := by
  refine ⟨.refl start.files, none, ?_, rfl⟩
  have located := Files.Tree.locate_of_fileLocation writable
  cases holds : start.files.node? location with
  | none => exact holds
  | some held => simp [Files.Tree.find?, located, holds] at absent

/-- Over every run of additions and removals that use one ledger for the subnet of one node, with
fewer additions than there are addresses but one, the additions that get past the acquisition of
addresses consume the addresses behind that of the bridge one by one, and the ledger then holds the
last one. Removals change no file. What the successful additions tell the runtime are different
addresses, and none of them is that of the gateway. -/
theorem run_issues_consecutively {path : Path} {node : Cidr} {start : Host κ φ}
    (writable : start.files.fileLocation path = .ok location)
    (absent : start.files.find? path = none) (errands : List (Errand κ φ))
    (regular : ∀ errand ∈ errands, errand.Regular path node location start.files)
    (few : errands.countP Errand.isAddition < 2 ^ 32 - 1) :
    (∀ before errand after, errands = before ++ errand :: after →
      (∀ address, errand.issued? (run start before) = some address →
        address.address =
            node.network.advance
              (UInt32.ofNat (1 + ((Lifecycle.issues start before).length + 1))) ∧
          errand.cluster?.map Cidr.prefixLength = some address.prefixLength ∧
          (run start (before ++ [errand])).files.read path = .ok (Bytes.ofText address.text)) ∧
      (errand.issued? (run start before) = none →
        (run start (before ++ [errand])).files.read path = (run start before).files.read path) ∧
      (errand.isAddition = false →
        (run start (before ++ [errand])).files = (run start before).files)) ∧
    ∃ reported : List Ipv4,
      (results start errands).map told? =
          reported.map (fun address => some (address, node.network.advance 1)) ∧
        reported.Nodup ∧ node.network.advance 1 ∉ reported := by
  have progress := progress_start writable absent node
  constructor
  · intro before errand after split
    subst split
    have beforeRegular : ∀ errand ∈ before, errand.Regular path node location start.files :=
      fun errand member => regular errand (List.mem_append_left _ member)
    have errandRegular := regular errand (by simp)
    have reached := progress.run writable beforeRegular
    rw [Nat.zero_add] at reached
    have last : run start (before ++ [errand]) = errand.after (run start before) := by
      simp [run]
    have readable := reached.directories.fileLocation writable
    rw [last]
    refine ⟨?consumed, ?refrained, ?removed⟩
    case consumed =>
      intro address issued
      rcases reached.step writable errandRegular with refrains | ⟨other, consumes⟩
      · rw [refrains.issued] at issued
        cases issued
      · obtain rfl := Option.some.inj (consumes.issued.symm.trans issued)
        obtain ⟨mode, holds⟩ := consumes.recorded
        exact ⟨consumes.next, consumes.cluster,
          Files.Tree.read_of_node? (consumes.directories.fileLocation readable) holds⟩
    case refrained =>
      intro issued
      rcases reached.step writable errandRegular with refrains | ⟨other, consumes⟩
      · exact Files.Tree.read_of_spares readable refrains.spares
      · rw [consumes.issued] at issued
        cases issued
    case removed =>
      intro removal
      cases errand with
      | add channel transport configuration settingsRoot invocation => cases removal
      | remove channel invocation => exact keepsFiles_remove channel invocation _
  · obtain ⟨reported, sublist, told⟩ := progress.told writable regular
    have count := length_issues_le start errands
    rw [progress.issues writable regular] at sublist
    refine ⟨reported, told, ?distinct, ?gateway⟩
    case distinct =>
      -- Fewer than two to the thirty-second are counted, so no address comes round again.
      apply sublist.nodup
      apply List.Nodup.map_on _ List.nodup_range'
      intro first firstMember second secondMember same
      rw [List.mem_range'_1] at firstMember secondMember
      have equal := advance_injOn node.network (by omega) (by omega) same
      omega
    case gateway =>
      intro member
      obtain ⟨earlier, earlierMember, same⟩ := List.mem_map.mp (sublist.subset member)
      rw [List.mem_range'_1] at earlierMember
      have bridge : node.network.advance (UInt32.ofNat (1 + (earlier + 1))) =
          node.network.advance (UInt32.ofNat 1) := same
      have equal := advance_injOn node.network (by omega) (by omega) bridge
      omega

def emptyHost : Host DeviceTable Unit := ⟨⟨[], []⟩, .empty, (), []⟩

/-- An addition under a locked ledger in the current directory, without a packet filter. -/
def sampleAddition : Errand DeviceTable Unit :=
  .add DeviceTable.answer Masquerade.unavailable
    { NetworkConfiguration.usual "overlay" "10.32.1.0/24" "10.32.0.0/16" "eth0" with
      ledger := ⟨⟨"ledger"⟩, true⟩ }
    none ⟨⟨"ns", "eth0", "c1"⟩, []⟩

/-- Two additions that cannot be wired still consume two addresses. -/
theorem run_issues_consecutively_unwired :
    emptyHost.files.fileLocation ⟨"ledger"⟩ = .ok ["ledger"] ∧
      emptyHost.files.find? ⟨"ledger"⟩ = none ∧
        ∃ address, sampleAddition.issued? (run emptyHost [sampleAddition]) = some address ∧
          address.address = ⟨0x0a200103⟩ := by
  have writable : emptyHost.files.fileLocation ⟨"ledger"⟩ = .ok ["ledger"] := by decide +kernel
  have absent : emptyHost.files.find? ⟨"ledger"⟩ = none := by decide +kernel
  have regular : ∀ errand ∈ [sampleAddition, sampleAddition],
      errand.Regular ⟨"ledger"⟩ ⟨⟨0x0a200100⟩, 24, by decide⟩ ["ledger"] emptyHost.files := by
    intro errand member
    have same : errand = sampleAddition := by simpa using member
    subst same
    refine ⟨rfl, ?_, fun root isRoot => nomatch isRoot⟩
    decide +kernel
  have issuedOnce : (issues emptyHost [sampleAddition]).length = 1 := by decide +kernel
  have issuedAgain :
      (sampleAddition.issued? (run emptyHost [sampleAddition])).isSome = true := by
    decide +kernel
  obtain ⟨address, issued⟩ := Option.isSome_iff_exists.mp issuedAgain
  refine ⟨writable, absent, address, issued, ?_⟩
  have consumed := (((run_issues_consecutively writable absent [sampleAddition, sampleAddition]
    regular (by decide)).1 [sampleAddition] sampleAddition [] rfl).1 address issued).1
  rw [consumed, issuedOnce]
  decide

end OverlayNet.Lifecycle
