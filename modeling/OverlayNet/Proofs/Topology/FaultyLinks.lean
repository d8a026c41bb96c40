import Mathlib
import OverlayNet.Proofs.Link.DeviceLookup
import OverlayNet.Proofs.Procedure
import OverlayNet.Link.Simulation
import OverlayNet.Topology

set_option autoImplicit false

/-! # Work on links that may refuse any request

A request to a table with planned failures is either refused, and then the table stays as it is, or
answered as the table answers it. Work on such links is judged by what it leads to in either case,
whatever the plan. -/

namespace OverlayNet.Topology

variable {φ α β : Type}

/-- Whether two hosts have the same files, and no request to the links of the second is swallowed.
-/
def Untouched (before after : Host Simulation φ) : Prop :=
  after.files = before.files ∧ after.links.swallowed = []

/-- Whether work on links leads from a table to the first condition if it succeeds, and to the
second one if it fails, for every plan of failures. -/
def Wires (work : Action Simulation φ α) (success : α → DeviceTable → Prop)
    (failure : DeviceTable → Prop) (table : DeviceTable) : Prop :=
  ∀ host : Host Simulation φ, host.links.swallowed = [] → host.links.table = table →
    Procedure.Ensures work
      (fun value later => Untouched host later ∧ success value later.links.table)
      (fun _ later => Untouched host later ∧ failure later.links.table) host

theorem Untouched.trans {first second third : Host Simulation φ} (earlier : Untouched first second)
    (later : Untouched second third) : Untouched first third :=
  ⟨later.1.trans earlier.1, later.2⟩

theorem answer_refused_or_answered (request : LinkRequest) {simulation : Simulation}
    (clean : simulation.swallowed = []) :
    (Simulation.answer request simulation).2.swallowed = [] ∧
      ((∃ fault, (Simulation.answer request simulation).1 = .error fault ∧
          (Simulation.answer request simulation).2.table = simulation.table) ∨
        (Simulation.answer request simulation).1 =
            (DeviceTable.answer request simulation.table).1 ∧
          (Simulation.answer request simulation).2.table =
            (DeviceTable.answer request simulation.table).2) := by
  rcases planned : PlannedFailure.apply request.verb simulation.failures with ⟨refusal, failures⟩
  cases refusal with
  | some reason => simp [Simulation.answer, planned, clean]
  | none => simp [Simulation.answer, planned, clean]

section Rules

variable {success : α → DeviceTable → Prop} {failure : DeviceTable → Prop} {table : DeviceTable}

theorem wires_pure {value : α} (held : success value table) :
    Wires (pure value : Action Simulation φ α) success failure table := by
  intro host clean started
  subst started
  exact ⟨⟨rfl, clean⟩, held⟩

theorem wires_throw {fault : Fault} (held : failure table) :
    Wires (throw fault : Action Simulation φ α) success failure table := by
  intro host clean started
  subst started
  exact ⟨⟨rfl, clean⟩, held⟩

theorem wires_inform {text : String} {success : Unit → DeviceTable → Prop}
    (held : success () table) :
    Wires (Procedure.inform text : Action Simulation φ Unit) success failure table := by
  intro host clean started
  subst started
  exact ⟨⟨rfl, clean⟩, held⟩

theorem wires_bind {work : Action Simulation φ α} {next : α → Action Simulation φ β}
    {success : β → DeviceTable → Prop}
    (first : Wires work (fun value => Wires (next value) success failure) failure table) :
    Wires (work >>= next) success failure table := by
  intro host clean started
  apply Procedure.ensures_bind.mpr
  apply (first host clean started).mono
  · intro value later done
    obtain ⟨untouched, continued⟩ := done
    apply (continued later untouched.2 rfl).mono
    · intro result last ended
      exact ⟨untouched.trans ended.1, ended.2⟩
    · intro fault last ended
      exact ⟨untouched.trans ended.1, ended.2⟩
  · intro fault later held
    exact held

theorem Wires.mono {work : Action Simulation φ α} {weaker : α → DeviceTable → Prop}
    {weakerFailure : DeviceTable → Prop} (wired : Wires work success failure table)
    (onSuccess : ∀ value later, success value later → weaker value later)
    (onFailure : ∀ later, failure later → weakerFailure later) :
    Wires work weaker weakerFailure table := by
  intro host clean started
  apply (wired host clean started).mono
  · intro value later ended
    exact ⟨ended.1, onSuccess value _ ended.2⟩
  · intro fault later ended
    exact ⟨ended.1, onFailure _ ended.2⟩

/-- What work that leads somewhere from a table comes to on a host with that table. -/
theorem Wires.cases {work : Action Simulation φ α} {host : Host Simulation φ}
    (wired : Wires work success failure host.links.table) (clean : host.links.swallowed = []) :
    (∃ fault later, Procedure.outcome work host = (.error fault, later) ∧ Untouched host later ∧
        failure later.links.table) ∨
      ∃ value later, Procedure.outcome work host = (.ok value, later) ∧ Untouched host later ∧
        success value later.links.table :=
  (wired host clean rfl).cases

/-- A request is refused, or answered as the table answers it. -/
theorem wires_ask {request : LinkRequest} {success : request.Answer → DeviceTable → Prop}
    (refused : failure table)
    (answered : ∀ value later, DeviceTable.answer request table = (.ok value, later) →
      success value later) :
    Wires (Procedure.ask Simulation.answer request : Action Simulation φ request.Answer) success
      failure table := by
  intro host clean started
  subst started
  rw [Procedure.Ensures, Procedure.outcome_ask]
  obtain ⟨stillClean, refusal | ⟨result, table⟩⟩ := answer_refused_or_answered request clean
  · obtain ⟨fault, result, table⟩ := refusal
    rw [result]
    exact ⟨⟨rfl, stillClean⟩, table ▸ refused⟩
  · rcases computed : DeviceTable.answer request host.links.table with ⟨outcome, later⟩
    rw [computed] at result table
    rw [result]
    cases outcome with
    | ok value => exact ⟨⟨rfl, stillClean⟩, table ▸ answered value later computed⟩
    | error fault =>
        obtain rfl := DeviceTable.of_answer_error computed
        exact ⟨⟨rfl, stillClean⟩, table ▸ refused⟩

theorem wires_indexOf {name : String} {success : Option Nat → DeviceTable → Prop}
    (refused : failure table)
    (answered : success ((table.find? none name).map Device.index) table) :
    Wires (Procedure.ask Simulation.answer (.indexOf name) : Action Simulation φ (Option Nat))
      success failure table := by
  apply wires_ask refused
  intro value later same
  cases same
  exact answered

theorem wires_masterOf {index : Nat} {success : Option Nat → DeviceTable → Prop}
    (refused : failure table) (answered : ∀ master, success master table) :
    Wires (Procedure.ask Simulation.answer (.masterOf index) : Action Simulation φ (Option Nat))
      success failure table := by
  apply wires_ask refused
  intro value later same
  simp only [DeviceTable.answer] at same
  split at same
  · cases same
  · obtain ⟨-, rfl⟩ := Prod.mk.inj same
    exact answered value

theorem wires_requireIndex {context name : String} {success : Nat → DeviceTable → Prop}
    (refused : failure table)
    (answered : ∀ device, table.find? none name = some device → success device.index table) :
    Wires (requireIndex Simulation.answer context name : Action Simulation φ Nat) success failure
      table := by
  apply wires_bind
  apply wires_indexOf refused
  cases found : table.find? none name with
  | none => exact wires_throw refused
  | some device => exact wires_pure (answered device found)

end Rules

end OverlayNet.Topology
