import Mathlib
import OverlayNet.Proofs.Lifecycle.AddressRuns
import OverlayNet.Proofs.Masquerade.InstallVerdict

set_option autoImplicit false

/-! # The stages of an addition

An addition takes its steps in order and stops at the first one that fails. From that step alone it
follows which parts of the host have been touched, what has been logged and what is answered. -/

namespace OverlayNet

def Host.logging {κ φ : Type} (host : Host κ φ) (entries : List LogEntry) : Host κ φ :=
  { host with log := host.log ++ entries }

theorem Host.logging_nil {κ φ : Type} (host : Host κ φ) : host.logging [] = host := by
  rw [Host.logging, List.append_nil]

theorem Host.logging_logging {κ φ : Type} (host : Host κ φ) (first second : List LogEntry) :
    (host.logging first).logging second = host.logging (first ++ second) := by
  simp only [Host.logging, List.append_assoc]

namespace Lifecycle

open Allocation (bridgeAddress)
open Procedure (Touches)

variable {κ φ α : Type}

/-- The steps of an addition, in the order in which they are taken. -/
inductive Step where
  | subnets
  | preparation
  | acquisition
  | topology
  | masquerade
deriving DecidableEq, Repr

/-- The stage that an addition reaches in which the given step fails, or none. -/
def reached : Option Step → Stage
  | some .subnets => .unattached
  | some .preparation => .unattached
  | some .acquisition => .unattached
  | some .topology => .addressAcquired
  | some .masquerade => .topologyWired
  | none => .ready

/-- How many changes of stage an addition logs in which the given step fails, or none. -/
def changes : Option Step → Nat
  | some .subnets => 0
  | some .preparation => 0
  | some .acquisition => 0
  | some .topology => 1
  | some .masquerade => 2
  | none => 4

def transition (invocation : Invocation) (before after : Stage) : LogEntry :=
  ⟨.info, "Container " ++ invocation.label ++ " (" ++ invocation.attachment.interfaceName ++
    "): " ++ before.name ++ " -> " ++ after.name⟩

/-- All changes of stage, from the first stage to the last one. -/
def transitions (invocation : Invocation) : List LogEntry :=
  (Stage.all.zip Stage.all.tail).map fun (before, after) => transition invocation before after

def failure (invocation : Invocation) (stage : Stage) (fault : Fault) : LogEntry :=
  ⟨.error, "ADD for container " ++ invocation.label ++ " failed after reaching " ++ stage.name ++
    ": " ++ fault.text⟩

/-- What is logged when an addition ends. -/
def failures (invocation : Invocation) (failing : Option Step) :
    Except Fault Response.Result → List LogEntry
  | .error fault => [failure invocation (reached failing) fault]
  | .ok _ => []

/-- The subnets of the node and of the cluster. -/
def subnets (configuration : NetworkConfiguration) : Except Fault (Cidr × Cidr) := do
  let node ← configuration.nodeSubnet
  let cluster ← configuration.clusterSubnet
  pure (node, cluster)

def wiring (configuration : NetworkConfiguration) (invocation : Invocation)
    (node cluster container : Cidr) : Wiring :=
  ⟨invocation.attachment, container, bridgeAddress node cluster, configuration.uplink⟩

/-- What it takes to get an address: the subnets are read, the host is prepared, and the ledger
issues one. -/
structure Acquires (configuration : NetworkConfiguration) (settingsRoot : Option Path)
    (host : Host κ φ) (node cluster container : Cidr) (acquired : Host κ φ) : Prop where
  read : subnets configuration = .ok (node, cluster)
  issued : ∃ prepared : Host κ φ, (prepare settingsRoot).outcome host = (.ok (), prepared) ∧
    (Allocation.acquire configuration.ledger node cluster).outcome prepared =
      (.ok container, acquired)

section Course

variable (channel : LinkChannel κ) (transport : Masquerade.Transport φ)
  (configuration : NetworkConfiguration) (settingsRoot : Option Path) (invocation : Invocation)

/-- How an addition goes on a host: the step that fails, if one does, the result, and the host
before the failure is logged. Each step starts where the one before it has succeeded. -/
inductive Course (host : Host κ φ) :
    Option Step → Except Fault Response.Result → Host κ φ → Prop where
  | subnets {fault : Fault} (refused : subnets configuration = .error fault) :
      Course host (some .subnets) (.error fault) host
  | preparation {node cluster : Cidr} {fault : Fault} {last : Host κ φ}
      (read : Lifecycle.subnets configuration = .ok (node, cluster))
      (refused : (prepare settingsRoot).outcome host = (.error fault, last)) :
      Course host (some .preparation) (.error fault) last
  | acquisition {node cluster : Cidr} {fault : Fault} {prepared last : Host κ φ}
      (read : Lifecycle.subnets configuration = .ok (node, cluster))
      (done : (prepare settingsRoot).outcome host = (.ok (), prepared))
      (refused : (Allocation.acquire configuration.ledger node cluster).outcome prepared =
        (.error fault, last)) :
      Course host (some .acquisition) (.error fault) last
  | topology {node cluster container : Cidr} {fault : Fault} {acquired last : Host κ φ}
      (acquires : Acquires configuration settingsRoot host node cluster container acquired)
      (refused : (configuration.topology.attach channel
          (wiring configuration invocation node cluster container)).outcome
            (acquired.logging [transition invocation .unattached .addressAcquired]) =
        (.error fault, last)) :
      Course host (some .topology) (.error fault) last
  | masquerade {node cluster container : Cidr} {fault : Fault} {names : Device.Names}
      {acquired wired last : Host κ φ}
      (acquires : Acquires configuration settingsRoot host node cluster container acquired)
      (wires : (configuration.topology.attach channel
          (wiring configuration invocation node cluster container)).outcome
            (acquired.logging [transition invocation .unattached .addressAcquired]) =
        (.ok names, wired))
      (refused : (Masquerade.install transport configuration.uplink cluster).outcome
          (wired.logging [transition invocation .addressAcquired .topologyWired]) =
        (.error fault, last)) :
      Course host (some .masquerade) (.error fault) last
  | completion {node cluster container : Cidr} {names : Device.Names}
      {acquired wired installed : Host κ φ}
      (acquires : Acquires configuration settingsRoot host node cluster container acquired)
      (wires : (configuration.topology.attach channel
          (wiring configuration invocation node cluster container)).outcome
            (acquired.logging [transition invocation .unattached .addressAcquired]) =
        (.ok names, wired))
      (installs : (Masquerade.install transport configuration.uplink cluster).outcome
          (wired.logging [transition invocation .addressAcquired .topologyWired]) =
        (.ok (), installed)) :
      Course host none
        (.ok (report configuration invocation.attachment names container
          (bridgeAddress node cluster)))
        (installed.logging [transition invocation .topologyWired .natInstalled,
          transition invocation .natInstalled .ready])

end Course

section Outcome

theorem outcome_stepAt_ok {step : Action κ φ α} {host later : Host κ φ} {value : α}
    (done : step.outcome host = (.ok value, later)) (invocation : Invocation) (stage : Stage) :
    (stepAt invocation stage step).outcome host = (.ok value, later) :=
  Procedure.outcome_onFailure_ok done _

theorem outcome_stepAt_error {step : Action κ φ α} {host later : Host κ φ} {fault : Fault}
    (failed : step.outcome host = (.error fault, later)) (invocation : Invocation)
    (stage : Stage) :
    (stepAt invocation stage step).outcome host =
      (.error fault, later.logging [failure invocation stage fault]) :=
  (Procedure.outcome_onFailure_error failed _).trans
    (Procedure.outcome_bind_ok (Procedure.outcome_recordAll _ later) _)

theorem outcome_reach (invocation : Invocation) (before after : Stage) (host : Host κ φ) :
    (reach invocation before after).outcome host =
      (.ok (), host.logging [transition invocation before after]) :=
  rfl

variable {channel : LinkChannel κ} {transport : Masquerade.Transport φ}
  {configuration : NetworkConfiguration} {settingsRoot : Option Path} {invocation : Invocation}
  {host : Host κ φ}

private theorem read_of_subnets {node cluster : Cidr}
    (read : subnets configuration = .ok (node, cluster)) :
    configuration.nodeSubnet = .ok node ∧ configuration.clusterSubnet = .ok cluster := by
  obtain ⟨first, nodeRead, rest⟩ := exceptBind_eq_ok_iff.mp read
  obtain ⟨second, clusterRead, both⟩ := exceptBind_eq_ok_iff.mp rest
  cases both
  exact ⟨nodeRead, clusterRead⟩

theorem outcome_acquireAddresses_of_unread {fault : Fault}
    (refused : subnets configuration = .error fault) :
    (acquireAddresses configuration settingsRoot).outcome host = (.error fault, host) := by
  unfold acquireAddresses
  unfold subnets at refused
  cases node : configuration.nodeSubnet with
  | error other =>
      rw [node] at refused
      cases refused
      rfl
  | ok network =>
      rw [node] at refused
      cases cluster : configuration.clusterSubnet with
      | error other =>
          rw [cluster] at refused
          cases refused
          rfl
      | ok other =>
          rw [cluster] at refused
          cases refused

theorem Acquires.outcome {node cluster container : Cidr} {acquired : Host κ φ}
    (acquires : Acquires configuration settingsRoot host node cluster container acquired) :
    (acquireAddresses configuration settingsRoot).outcome host =
      (.ok (cluster, container, bridgeAddress node cluster), acquired) := by
  obtain ⟨read, prepared, done, issued⟩ := acquires
  obtain ⟨nodeRead, clusterRead⟩ := read_of_subnets read
  rw [outcome_acquireAddresses nodeRead clusterRead, Procedure.outcome_bind_ok done,
    Procedure.outcome_bind_ok issued]
  rfl

variable {failing : Option Step} {result : Except Fault Response.Result} {last : Host κ φ}

/-- An addition that stays unattached stops where no address is acquired. -/
theorem Course.unacquired
    (course : Course channel transport configuration settingsRoot invocation host failing result
      last) (early : reached failing = .unattached) :
    ∃ fault, result = .error fault ∧
      (acquireAddresses configuration settingsRoot).outcome host = (.error fault, last) := by
  cases course with
  | subnets refused => exact ⟨_, rfl, outcome_acquireAddresses_of_unread refused⟩
  | preparation read refused =>
      obtain ⟨nodeRead, clusterRead⟩ := read_of_subnets read
      refine ⟨_, rfl, ?_⟩
      rw [outcome_acquireAddresses nodeRead clusterRead]
      exact Procedure.outcome_bind_error refused _
  | acquisition read done refused =>
      obtain ⟨nodeRead, clusterRead⟩ := read_of_subnets read
      refine ⟨_, rfl, ?_⟩
      rw [outcome_acquireAddresses nodeRead clusterRead, Procedure.outcome_bind_ok done]
      exact Procedure.outcome_bind_error refused _
  | topology acquires refused => cases early
  | masquerade acquires wires refused => cases early
  | completion acquires wires installs => cases early

/-- The course of an addition tells its outcome. -/
theorem Course.outcome
    (course : Course channel transport configuration settingsRoot invocation host failing result
      last) :
    (add channel transport configuration settingsRoot invocation).outcome host =
      (result, last.logging (failures invocation failing result)) := by
  by_cases early : reached failing = .unattached
  case pos =>
    obtain ⟨fault, rfl, failed⟩ := course.unacquired early
    rw [failures, early, add_eq]
    exact Procedure.outcome_bind_error (outcome_stepAt_error failed _ _) _
  cases course with
  | subnets refused => exact absurd rfl early
  | preparation read refused => exact absurd rfl early
  | acquisition read done refused => exact absurd rfl early
  | topology acquires refused =>
      rw [outcome_add_of_ok acquires.outcome]
      refine (Procedure.outcome_bind_ok (outcome_reach _ _ _ _) _).trans ?_
      exact Procedure.outcome_bind_error (outcome_stepAt_error refused _ _) _
  | masquerade acquires wires refused =>
      rw [outcome_add_of_ok acquires.outcome]
      refine (Procedure.outcome_bind_ok (outcome_reach _ _ _ _) _).trans ?_
      refine (Procedure.outcome_bind_ok (outcome_stepAt_ok wires _ _) _).trans ?_
      refine (Procedure.outcome_bind_ok (outcome_reach _ _ _ _) _).trans ?_
      exact Procedure.outcome_bind_error (outcome_stepAt_error refused _ _) _
  | completion acquires wires installs =>
      rw [outcome_add_of_ok acquires.outcome]
      refine (Procedure.outcome_bind_ok (outcome_reach _ _ _ _) _).trans ?_
      refine (Procedure.outcome_bind_ok (outcome_stepAt_ok wires _ _) _).trans ?_
      refine (Procedure.outcome_bind_ok (outcome_reach _ _ _ _) _).trans ?_
      refine (Procedure.outcome_bind_ok (outcome_stepAt_ok installs _ _) _).trans ?_
      refine (Procedure.outcome_bind_ok (outcome_reach _ _ _ _) _).trans ?_
      refine (Procedure.outcome_bind_ok (outcome_reach _ _ _ _) _).trans ?_
      rw [Host.logging_logging, failures, Host.logging_nil]
      rfl

/-- Every addition takes some course. -/
theorem exists_course (channel : LinkChannel κ) (transport : Masquerade.Transport φ)
    (configuration : NetworkConfiguration) (settingsRoot : Option Path) (invocation : Invocation)
    (host : Host κ φ) :
    ∃ failing result last,
      Course channel transport configuration settingsRoot invocation host failing result last := by
  cases read : subnets configuration with
  | error fault => exact ⟨_, _, _, .subnets read⟩
  | ok networks =>
      obtain ⟨node, cluster⟩ := networks
      rcases preparation : (prepare settingsRoot).outcome host with ⟨outcome, prepared⟩
      cases outcome with
      | error fault => exact ⟨_, _, _, .preparation read preparation⟩
      | ok done =>
          rcases acquisition : (Allocation.acquire configuration.ledger node cluster).outcome
            prepared with ⟨outcome, acquired⟩
          cases outcome with
          | error fault => exact ⟨_, _, _, .acquisition read preparation acquisition⟩
          | ok container =>
              have acquires : Acquires configuration settingsRoot host node cluster container
                  acquired := ⟨read, prepared, preparation, acquisition⟩
              rcases topology : (configuration.topology.attach channel
                (wiring configuration invocation node cluster container)).outcome
                  (acquired.logging [transition invocation .unattached .addressAcquired])
                with ⟨outcome, wired⟩
              cases outcome with
              | error fault => exact ⟨_, _, _, .topology acquires topology⟩
              | ok names =>
                  rcases masquerade : (Masquerade.install transport configuration.uplink
                    cluster).outcome
                      (wired.logging [transition invocation .addressAcquired .topologyWired])
                    with ⟨outcome, installed⟩
                  cases outcome with
                  | error fault => exact ⟨_, _, _, .masquerade acquires topology masquerade⟩
                  | ok done => exact ⟨_, _, _, .completion acquires topology masquerade⟩

end Outcome

section Logs

/-- Whether between two hosts the given changes of stage have been logged, and no failure. -/
def Logs (before after : Host κ φ) (stages : List LogEntry) : Prop :=
  ∃ entries, after.log = before.log ++ entries ∧
    entries.filter (fun entry => entry.IsTransition) = stages ∧
    entries.filter (fun entry => entry.IsFailure) = []

variable {first second third : Host κ φ}

theorem Logs.trans {earlier later : List LogEntry} (before : Logs first second earlier)
    (behind : Logs second third later) : Logs first third (earlier ++ later) := by
  obtain ⟨head, headLog, headStages, headFailures⟩ := before
  obtain ⟨tail, tailLog, tailStages, tailFailures⟩ := behind
  refine ⟨head ++ tail, ?_, ?_, ?_⟩
  · rw [tailLog, headLog, List.append_assoc]
  · rw [List.filter_append, headStages, tailStages]
  · rw [List.filter_append, headFailures, tailFailures, List.append_nil]

/-- The steps themselves log no change of stage. -/
theorem logs_of_alters {part : Part} (alters : first.Alters part second) :
    Logs first second [] := by
  obtain ⟨entries, log, ordinary⟩ := alters.log
  refine ⟨entries, log, ?_, ?_⟩
  · rw [List.filter_eq_nil_iff]
    exact fun entry member => by simpa using (ordinary entry member).1
  · rw [List.filter_eq_nil_iff]
    exact fun entry member => by simpa using (ordinary entry member).2

private theorem isTransition_transition (invocation : Invocation) (before after : Stage) :
    (transition invocation before after).IsTransition := by
  refine ⟨rfl, ?_⟩
  simp only [transition, String.toList_append, List.append_assoc]
  exact List.prefix_append _ _

private theorem logs_transitions (host : Host κ φ) {stages : List LogEntry}
    (changes : ∀ entry ∈ stages, entry.IsTransition) : Logs host (host.logging stages) stages := by
  refine ⟨stages, rfl, ?_, ?_⟩
  · rw [List.filter_eq_self]
    exact fun entry member => by simpa using changes entry member
  · rw [List.filter_eq_nil_iff]
    intro entry member
    have isInfo := (changes entry member).1
    simp [LogEntry.IsFailure, isInfo]

private theorem logs_transition (invocation : Invocation) (before after : Stage) (host : Host κ φ) :
    Logs host (host.logging [transition invocation before after])
      [transition invocation before after] := by
  apply logs_transitions
  intro entry member
  rw [List.mem_singleton.mp member]
  exact isTransition_transition invocation before after

end Logs

section Effects

theorem touches_prepare (settingsRoot : Option Path) :
    Touches .files (prepare settingsRoot : Action κ φ Unit) := by
  cases settingsRoot with
  | none => exact Procedure.touches_pure ()
  | some root => exact BridgeFilter.touches_enable root

variable {channel : LinkChannel κ} {transport : Masquerade.Transport φ}
  {configuration : NetworkConfiguration} {settingsRoot : Option Path} {invocation : Invocation}
  {host last : Host κ φ} {node cluster container : Cidr} {failing : Option Step}
  {result : Except Fault Response.Result}

theorem Acquires.alters {acquired : Host κ φ}
    (acquires : Acquires configuration settingsRoot host node cluster container acquired) :
    host.Alters .files acquired := by
  obtain ⟨-, prepared, done, issued⟩ := acquires
  have first := touches_prepare settingsRoot host
  have second := Allocation.touches_acquire configuration.ledger node cluster prepared
  rw [done] at first
  rw [issued] at second
  exact first.trans second

theorem Acquires.logs {acquired : Host κ φ}
    (acquires : Acquires configuration settingsRoot host node cluster container acquired)
    (invocation : Invocation) :
    Logs host (acquired.logging [transition invocation .unattached .addressAcquired])
      [transition invocation .unattached .addressAcquired] :=
  (logs_of_alters acquires.alters).trans (logs_transition invocation _ _ acquired)

theorem attach_effects {topology : Topology} {wiring : Wiring}
    {before after : Host κ φ} {result : Except Fault Device.Names}
    (attached : (topology.attach channel wiring).outcome before = (result, after)) :
    before.Alters .links after := by
  have altered := topology.touches_attach channel wiring before
  rwa [attached] at altered

private theorem install_effects {before after : Host κ φ} {uplink : String}
    {result : Except Fault Unit}
    (installed : (Masquerade.install transport uplink cluster).outcome before = (result, after)) :
    before.Alters .filter after ∧
      after.filter = (transport (Masquerade.installation uplink cluster) before.filter).2 := by
  have altered := Masquerade.touches_install transport uplink cluster before
  have sent := (Masquerade.outcome_install transport uplink cluster before).2
  rw [installed] at altered sent
  exact ⟨altered, sent⟩

private theorem names_of_attach {topology : Topology} {wiring : Wiring} {before after : Host κ φ}
    {names : Device.Names}
    (attached : (topology.attach channel wiring).outcome before = (.ok names, after)) :
    names = wiring.attachment.names := by
  have ensured : Procedure.Ensures (topology.attach channel wiring)
      (fun names _ => names = wiring.attachment.names) (fun _ _ => True) before := by
    apply Procedure.ensures_bind_of_forall
    intro _ _
    apply Procedure.ensures_bind_of_forall
    intro _ _
    apply Procedure.ensures_bind_of_forall
    intro _ _
    apply Procedure.ensures_bind_of_forall
    intro _ _
    apply Procedure.ensures_bind_of_forall
    intro _ _
    apply Procedure.ensures_bind_of_forall
    intro _ _
    apply Procedure.ensures_bind_of_forall
    intro _ _
    rfl
  exact (Procedure.ensures_of_ok attached).mp ensured

/-- What the runtime is told about an attachment: both ends of the pair of devices, and the address
of the one inside the container with the bridge as its gateway. -/
structure Reports (attachment : Device.Attachment) (container bridge : Cidr)
    (reply : Response.Result) : Prop where
  interfaces : reply.interfaces =
    some [⟨attachment.interfaceName, none, some attachment.namespacePath⟩,
      ⟨attachment.names.host, none, none⟩]
  addresses : ∃ position : UInt64,
    reply.addresses =
        some [⟨some "4", some position, container.text, some bridge.address.text⟩] ∧
      (reply.interfaces.getD [])[position.toNat]? =
        some ⟨attachment.interfaceName, none, some attachment.namespacePath⟩
  routes : reply.routes = some [⟨"0.0.0.0/0", some bridge.address.text⟩]

private theorem reports_report (configuration : NetworkConfiguration)
    (attachment : Device.Attachment) (container bridge : Cidr) :
    Reports attachment container bridge
      (report configuration attachment attachment.names container bridge) :=
  ⟨rfl, ⟨0, rfl, rfl⟩, rfl⟩

/-- The files that an addition leaves in which the given step fails, or none. -/
def filesBehind (configuration : NetworkConfiguration) (settingsRoot : Option Path)
    (host : Host κ φ) : Option Step → Files.Tree
  | some .subnets => host.files
  | some .preparation => ((prepare settingsRoot).outcome host).2.files
  | _ => ((acquireAddresses configuration settingsRoot).outcome host).2.files

/-- What follows from the step of an addition that fails, if one does. -/
structure Effects (channel : LinkChannel κ) (transport : Masquerade.Transport φ)
    (configuration : NetworkConfiguration) (settingsRoot : Option Path) (invocation : Invocation)
    (host : Host κ φ) (failing : Option Step) (result : Except Fault Response.Result)
    (later : Host κ φ) : Prop where
  /-- Until an address is asked for, the addition is the same whichever the ledger is. -/
  ledger : failing = some .subnets ∨ failing = some .preparation → ∀ ledger,
    (add channel transport { configuration with ledger } settingsRoot invocation).outcome host =
      (result, later)
  /-- Once an address is issued no file changes any more. -/
  files : later.files = filesBehind configuration settingsRoot host failing
  /-- No request about links is made before an address is issued. -/
  links : reached failing = .unattached → later.links = host.links
  /-- No batch is sent before the container is wired. -/
  unsent : failing ≠ some .masquerade → failing ≠ none → later.filter = host.filter
  /-- One batch is sent once it is. -/
  sent : failing = some .masquerade ∨ failing = none →
    ∃ cluster, configuration.clusterSubnet = .ok cluster ∧
      later.filter =
        (transport (Masquerade.installation configuration.uplink cluster) host.filter).2
  log : ∃ entries, later.log = host.log ++ entries ∧
    entries.filter (fun entry => entry.IsTransition) =
      (transitions invocation).take (changes failing) ∧
    entries.filter (fun entry => entry.IsFailure) = failures invocation failing result
  reply : ∀ reply, result = .ok reply → ∃ cluster container bridge acquired,
    (acquireAddresses configuration settingsRoot).outcome host =
        (.ok (cluster, container, bridge), acquired) ∧
      Reports invocation.attachment container bridge reply

private theorem changes_of_unattached (early : reached failing = .unattached) :
    changes failing = 0 := by
  cases failing with
  | none => cases early
  | some step => cases step <;> trivial

theorem touches_acquireAddresses (configuration : NetworkConfiguration)
    (settingsRoot : Option Path) :
    Touches .files (acquireAddresses configuration settingsRoot : Action κ φ _) := by
  apply Touches.bind (Procedure.touches_ofExcept _)
  intro node
  apply Touches.bind (Procedure.touches_ofExcept _)
  intro cluster
  have issues : Touches .files (do
      let container ← Allocation.acquire configuration.ledger node cluster
      pure (cluster, container, bridgeAddress node cluster) : Action κ φ _) :=
    (Allocation.touches_acquire _ _ _).bind fun container => Procedure.touches_pure _
  cases settingsRoot with
  | none => exact issues
  | some root => exact (BridgeFilter.touches_enable root).bind fun _ => issues

theorem Course.alters
    (course : Course channel transport configuration settingsRoot invocation host failing result
      last) (early : reached failing = .unattached) : host.Alters .files last := by
  obtain ⟨fault, -, failed⟩ := course.unacquired early
  have touched := touches_acquireAddresses configuration settingsRoot host
  rwa [failed] at touched

theorem Course.logs
    (course : Course channel transport configuration settingsRoot invocation host failing result
      last) :
    Logs host last ((transitions invocation).take (changes failing)) := by
  by_cases early : reached failing = .unattached
  case pos =>
    rw [changes_of_unattached early]
    exact logs_of_alters (course.alters early)
  cases course with
  | subnets refused => exact absurd rfl early
  | preparation read refused => exact absurd rfl early
  | acquisition read done refused => exact absurd rfl early
  | topology acquires refused =>
      exact (acquires.logs invocation).trans (logs_of_alters (attach_effects refused))
  | masquerade acquires wires refused =>
      have wired := (acquires.logs invocation).trans (logs_of_alters (attach_effects wires))
      have noted := wired.trans (logs_transition invocation .addressAcquired .topologyWired _)
      exact noted.trans (logs_of_alters (install_effects refused).1)
  | completion acquires wires installs =>
      have wired := (acquires.logs invocation).trans (logs_of_alters (attach_effects wires))
      have noted := wired.trans (logs_transition invocation .addressAcquired .topologyWired _)
      have installed := noted.trans (logs_of_alters (install_effects installs).1)
      refine installed.trans (logs_transitions _ ?_)
      intro entry member
      rcases List.mem_pair.mp member with rfl | rfl
      · exact isTransition_transition _ _ _
      · exact isTransition_transition _ _ _

theorem Course.acquired_files
    (course : Course channel transport configuration settingsRoot invocation host failing result
      last) :
    last.files = ((acquireAddresses configuration settingsRoot).outcome host).2.files := by
  by_cases early : reached failing = .unattached
  case pos =>
    obtain ⟨fault, -, failed⟩ := course.unacquired early
    rw [failed]
  cases course with
  | subnets refused => exact absurd rfl early
  | preparation read refused => exact absurd rfl early
  | acquisition read done refused => exact absurd rfl early
  | topology acquires refused =>
      rw [acquires.outcome]
      exact (attach_effects refused).files (by decide)
  | masquerade acquires wires refused =>
      rw [acquires.outcome]
      exact ((install_effects refused).1.files (by decide)).trans
        ((attach_effects wires).files (by decide))
  | completion acquires wires installs =>
      rw [acquires.outcome]
      exact ((install_effects installs).1.files (by decide)).trans
        ((attach_effects wires).files (by decide))

theorem Course.unsent
    (course : Course channel transport configuration settingsRoot invocation host failing result
      last) (notSending : failing ≠ some .masquerade) (notComplete : failing ≠ none) :
    last.filter = host.filter := by
  by_cases early : reached failing = .unattached
  case pos => exact (course.alters early).filter (by decide)
  cases course with
  | subnets refused => exact absurd rfl early
  | preparation read refused => exact absurd rfl early
  | acquisition read done refused => exact absurd rfl early
  | topology acquires refused =>
      exact ((attach_effects refused).filter (by decide)).trans
        (acquires.alters.filter (by decide))
  | masquerade acquires wires refused => exact absurd rfl notSending
  | completion acquires wires installs => exact absurd rfl notComplete

private theorem sent_of_installed {names : Device.Names} {wiring : Wiring}
    {acquired wired installed : Host κ φ} {outcome : Except Fault Unit}
    (acquires : Acquires configuration settingsRoot host node cluster container acquired)
    (wires : (configuration.topology.attach channel wiring).outcome
        (acquired.logging [transition invocation .unattached .addressAcquired]) =
      (.ok names, wired))
    (installs : (Masquerade.install transport configuration.uplink cluster).outcome
        (wired.logging [transition invocation .addressAcquired .topologyWired]) =
      (outcome, installed)) :
    ∃ cluster, configuration.clusterSubnet = .ok cluster ∧
      installed.filter =
        (transport (Masquerade.installation configuration.uplink cluster) host.filter).2 := by
  have untouched : wired.filter = host.filter :=
    ((attach_effects wires).filter (by decide)).trans (acquires.alters.filter (by decide))
  refine ⟨cluster, (read_of_subnets acquires.read).2, ?_⟩
  rw [(install_effects installs).2, ← untouched]
  rfl

theorem Course.sent
    (course : Course channel transport configuration settingsRoot invocation host failing result
      last) (wired : failing = some .masquerade ∨ failing = none) :
    ∃ cluster, configuration.clusterSubnet = .ok cluster ∧
      last.filter =
        (transport (Masquerade.installation configuration.uplink cluster) host.filter).2 := by
  cases course with
  | subnets refused => simp at wired
  | preparation read refused => simp at wired
  | acquisition read done refused => simp at wired
  | topology acquires refused => simp at wired
  | masquerade acquires wires refused => exact sent_of_installed acquires wires refused
  | completion acquires wires installs =>
      obtain ⟨cluster, read, sent⟩ := sent_of_installed acquires wires installs
      exact ⟨cluster, read, sent⟩

theorem Course.of_ledger
    (course : Course channel transport configuration settingsRoot invocation host failing result
      last) (early : failing = some .subnets ∨ failing = some .preparation) (ledger : Ledger) :
    Course channel transport { configuration with ledger } settingsRoot invocation host failing
      result last := by
  cases course with
  | subnets refused => exact .subnets refused
  | preparation read refused => exact .preparation read refused
  | acquisition read done refused => simp at early
  | topology acquires refused => simp at early
  | masquerade acquires wires refused => simp at early
  | completion acquires wires installs => simp at early

theorem Course.reply {reply : Response.Result}
    (course : Course channel transport configuration settingsRoot invocation host failing
      (.ok reply) last) :
    ∃ cluster container bridge acquired,
      (acquireAddresses configuration settingsRoot).outcome host =
          (.ok (cluster, container, bridge), acquired) ∧
        Reports invocation.attachment container bridge reply := by
  cases course with
  | completion acquires wires installs =>
      refine ⟨_, _, _, _, acquires.outcome, ?_⟩
      obtain rfl := names_of_attach wires
      exact reports_report configuration invocation.attachment _ _

theorem Course.files
    (course : Course channel transport configuration settingsRoot invocation host failing result
      last) :
    last.files = filesBehind configuration settingsRoot host failing := by
  have files := course.acquired_files
  cases course with
  | subnets refused => rfl
  | preparation read refused => rw [filesBehind, refused]
  | acquisition read done refused => exact files
  | topology acquires refused => exact files
  | masquerade acquires wires refused => exact files
  | completion acquires wires installs => exact files

private theorem filter_failures (invocation : Invocation) (failing : Option Step)
    (result : Except Fault Response.Result) :
    (failures invocation failing result).filter (fun entry => entry.IsTransition) = [] ∧
      (failures invocation failing result).filter (fun entry => entry.IsFailure) =
        failures invocation failing result := by
  cases result with
  | ok reply => exact ⟨rfl, rfl⟩
  | error fault => exact ⟨rfl, rfl⟩

theorem Course.effects
    (course : Course channel transport configuration settingsRoot invocation host failing result
      last) :
    Effects channel transport configuration settingsRoot invocation host failing result
      (last.logging (failures invocation failing result)) := by
  constructor
  case ledger => exact fun early ledger => (course.of_ledger early ledger).outcome
  case files => exact course.files
  case links => exact fun early => (course.alters early).links (by decide)
  case unsent => exact course.unsent
  case sent => exact course.sent
  case log =>
    obtain ⟨entries, log, stages, none⟩ := course.logs
    obtain ⟨noStages, all⟩ := filter_failures invocation failing result
    refine ⟨entries ++ failures invocation failing result, ?_, ?_, ?_⟩
    · rw [Host.logging, log, List.append_assoc]
    · rw [List.filter_append, stages, noStages, List.append_nil]
    · rw [List.filter_append, none, all, List.nil_append]
  case reply =>
    rintro reply rfl
    exact course.reply

end Effects

/-- Every addition takes a course, and what follows from it. -/
theorem exists_effects (channel : LinkChannel κ) (transport : Masquerade.Transport φ)
    (configuration : NetworkConfiguration) (settingsRoot : Option Path) (invocation : Invocation)
    (host : Host κ φ) :
    ∃ failing result last later,
      Course channel transport configuration settingsRoot invocation host failing result last ∧
        later = last.logging (failures invocation failing result) ∧
        (add channel transport configuration settingsRoot invocation).outcome host =
          (result, later) ∧
        Effects channel transport configuration settingsRoot invocation host failing result
          later := by
  obtain ⟨failing, result, last, course⟩ :=
    exists_course channel transport configuration settingsRoot invocation host
  exact ⟨failing, result, last, _, course, rfl, course.outcome, course.effects⟩

/-- A transport that is opened on its first use stays closed unless the container is wired, and
nobody is asked to open it. -/
theorem lazy_stays_closed {ω ι : Type} (channel : LinkChannel κ)
    (opening : Masquerade.Opener ω ι) (exchange : Masquerade.Transport ι)
    (configuration : NetworkConfiguration) (settingsRoot : Option Path) (invocation : Invocation)
    (host : Host κ (Masquerade.Lazy ω ι)) :
    ∃ failing result last later,
      Course channel (Masquerade.Lazy.transport opening exchange) configuration settingsRoot
          invocation host failing result last ∧
        later = last.logging (failures invocation failing result) ∧
        (add channel (Masquerade.Lazy.transport opening exchange) configuration settingsRoot
          invocation).outcome host = (result, later) ∧
        (failing ≠ some .masquerade → failing ≠ none →
          later.filter.isOpen = host.filter.isOpen ∧
            later.filter.opener = host.filter.opener) := by
  obtain ⟨failing, result, last, later, course, logged, done, effects⟩ := exists_effects channel
    (Masquerade.Lazy.transport opening exchange) configuration settingsRoot invocation host
  refine ⟨failing, result, last, later, course, logged, done, ?_⟩
  intro notSending notComplete
  rw [effects.unsent notSending notComplete]
  exact ⟨rfl, rfl⟩

/-- An addition takes its steps in order and stops at the first one that fails, with its fault. That
step tells what has been touched, logged and answered. A transport that is opened on its first use
is not opened by an addition that fails before the container is wired. -/
theorem add_stops_at_first_failure (channel : LinkChannel κ)
    (transport : Masquerade.Transport φ) (configuration : NetworkConfiguration)
    (settingsRoot : Option Path) (invocation : Invocation) (host : Host κ φ) :
    (∃ failing result last later,
      Course channel transport configuration settingsRoot invocation host failing result last ∧
        later = last.logging (failures invocation failing result) ∧
        (add channel transport configuration settingsRoot invocation).outcome host =
          (result, later) ∧
        Effects channel transport configuration settingsRoot invocation host failing result
          later) ∧
    ∀ {ω ι : Type} (opening : Masquerade.Opener ω ι) (exchange : Masquerade.Transport ι)
      (lazyHost : Host κ (Masquerade.Lazy ω ι)),
      ∃ failing result last later,
        Course channel (Masquerade.Lazy.transport opening exchange) configuration settingsRoot
            invocation lazyHost failing result last ∧
          later = last.logging (failures invocation failing result) ∧
          (add channel (Masquerade.Lazy.transport opening exchange) configuration settingsRoot
            invocation).outcome lazyHost = (result, later) ∧
          (failing ≠ some .masquerade → failing ≠ none →
            later.filter.isOpen = lazyHost.filter.isOpen ∧
              later.filter.opener = lazyHost.filter.opener) :=
  ⟨exists_effects channel transport configuration settingsRoot invocation host,
    fun opening exchange lazyHost => lazy_stays_closed channel opening exchange configuration
      settingsRoot invocation lazyHost⟩

end Lifecycle

end OverlayNet
