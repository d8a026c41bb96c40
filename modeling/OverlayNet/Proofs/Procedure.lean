import Mathlib
import OverlayNet.Host
import OverlayNet.Link.Request

set_option autoImplicit false

/-! # Reasoning about procedures

A procedure takes a host to an outcome and another host. A condition on both is led back through the
steps of a procedure to a condition on the host before it. -/

namespace OverlayNet

theorem exceptBind_eq_ok_iff {ε α β : Type} {first : Except ε α} {next : α → Except ε β}
    {result : β} :
    first.bind next = .ok result ↔ ∃ value, first = .ok value ∧ next value = .ok result := by
  cases first with
  | error failure => simp [Except.bind]
  | ok value => simp [Except.bind]

theorem exceptMapError_eq_ok_iff {ε δ α : Type} {result : Except ε α} {change : ε → δ}
    {value : α} : result.mapError change = .ok value ↔ result = .ok value := by
  cases result with
  | error failure => simp [Except.mapError]
  | ok other => simp [Except.mapError]

/-- A host with an empty directory and nothing else. -/
def Host.bare : Host Unit Unit := ⟨⟨[], []⟩, (), (), []⟩

namespace Procedure

variable {ε κ φ α β : Type}

/-- What a procedure comes to on a host, and the host behind it. -/
def outcome (work : Procedure ε κ φ α) (host : Host κ φ) : Except ε α × Host κ φ :=
  StateT.run (ExceptT.run work) host

theorem outcome_bind_ok {work : Procedure ε κ φ α} {host later : Host κ φ} {value : α}
    (done : outcome work host = (.ok value, later)) (next : α → Procedure ε κ φ β) :
    outcome (work >>= next) host = outcome (next value) later := by
  unfold outcome at done ⊢
  rw [ExceptT.run_bind, StateT.run_bind, done]
  rfl

theorem outcome_bind_error {work : Procedure ε κ φ α} {host later : Host κ φ} {failure : ε}
    (failed : outcome work host = (.error failure, later)) (next : α → Procedure ε κ φ β) :
    outcome (work >>= next) host = (.error failure, later) := by
  unfold outcome at failed ⊢
  rw [ExceptT.run_bind, StateT.run_bind, failed]
  rfl

/-- What follows a step depends only on what the step comes to. -/
theorem outcome_bind_congr {work other : Procedure ε κ φ α} {host : Host κ φ}
    (same : outcome work host = outcome other host) (next : α → Procedure ε κ φ β) :
    outcome (work >>= next) host = outcome (other >>= next) host := by
  rcases computed : outcome work host with ⟨result, later⟩
  have otherComputed := same.symm.trans computed
  cases result with
  | ok value => rw [outcome_bind_ok computed, outcome_bind_ok otherComputed]
  | error failure => rw [outcome_bind_error computed, outcome_bind_error otherComputed]

theorem outcome_ofExcept (result : Except ε α) (host : Host κ φ) :
    outcome (ofExcept result) host = (result, host) :=
  rfl

theorem outcome_recordAll (entries : List LogEntry) (host : Host κ φ) :
    outcome (recordAll entries : Procedure ε κ φ Unit) host =
      (.ok (), { host with log := host.log ++ entries }) :=
  rfl

theorem outcome_ask (channel : LinkChannel κ) (request : LinkRequest) (host : Host κ φ) :
    outcome (ask channel request) host =
      ((channel request host.links).1, { host with links := (channel request host.links).2 }) :=
  rfl

theorem outcome_readFiles_ok {operation : Files.Tree → Except Os.Cause α} {host : Host κ φ}
    {value : α} (found : operation host.files = .ok value) (failure : Os.Cause → ε) :
    outcome (readFiles failure operation) host = (.ok value, host) := by
  have read : outcome (readFiles failure operation) host =
      ((operation host.files).mapError failure, host) := rfl
  rw [read, found]
  rfl

theorem outcome_readFiles_error {operation : Files.Tree → Except Os.Cause α} {host : Host κ φ}
    {cause : Os.Cause} (refused : operation host.files = .error cause) (failure : Os.Cause → ε) :
    outcome (readFiles failure operation) host = (.error (failure cause), host) := by
  have read : outcome (readFiles failure operation) host =
      ((operation host.files).mapError failure, host) := rfl
  rw [read, refused]
  rfl

theorem outcome_changeFiles_ok {operation : Files.Tree → Except Os.Cause Files.Tree}
    {host : Host κ φ} {files : Files.Tree} (changed : operation host.files = .ok files)
    (failure : Os.Cause → ε) :
    outcome (changeFiles failure operation) host = (.ok (), { host with files }) :=
  outcome_bind_ok (outcome_readFiles_ok changed failure) _

theorem outcome_changeFiles_error {operation : Files.Tree → Except Os.Cause Files.Tree}
    {host : Host κ φ} {cause : Os.Cause} (refused : operation host.files = .error cause)
    (failure : Os.Cause → ε) :
    outcome (changeFiles failure operation) host = (.error (failure cause), host) :=
  outcome_bind_error (outcome_readFiles_error refused failure) _

theorem outcome_attemptFiles_ok {operation : Files.Tree → Except Os.Cause α × Files.Tree}
    {host : Host κ φ} {files : Files.Tree} {value : α}
    (done : operation host.files = (.ok value, files)) (failure : Os.Cause → ε) :
    outcome (attemptFiles failure operation) host = (.ok value, { host with files }) := by
  have attempted : outcome (attemptFiles failure operation) host =
      ((operation host.files).1.mapError failure,
        { host with files := (operation host.files).2 }) := rfl
  rw [attempted, done]
  rfl

theorem outcome_attemptFiles_error {operation : Files.Tree → Except Os.Cause α × Files.Tree}
    {host : Host κ φ} {files : Files.Tree} {cause : Os.Cause}
    (refused : operation host.files = (.error cause, files)) (failure : Os.Cause → ε) :
    outcome (attemptFiles failure operation) host =
      (.error (failure cause), { host with files }) := by
  have attempted : outcome (attemptFiles failure operation) host =
      ((operation host.files).1.mapError failure,
        { host with files := (operation host.files).2 }) := rfl
  rw [attempted, refused]
  rfl

theorem outcome_onFailure_ok {work : Procedure ε κ φ α} {host later : Host κ φ} {value : α}
    (done : outcome work host = (.ok value, later)) (afterwards : ε → Procedure ε κ φ Unit) :
    outcome (work.onFailure afterwards) host = (.ok value, later) := by
  unfold outcome onFailure at *
  rw [ExceptT.run_tryCatch, StateT.run_bind, done]
  rfl

theorem outcome_onFailure_error {work : Procedure ε κ φ α} {host later : Host κ φ} {failure : ε}
    (failed : outcome work host = (.error failure, later))
    (afterwards : ε → Procedure ε κ φ Unit) :
    outcome (work.onFailure afterwards) host =
      outcome (do afterwards failure; throw failure) later := by
  unfold outcome onFailure at *
  rw [ExceptT.run_tryCatch, StateT.run_bind, failed]
  rfl

/-- Whether a procedure ends with the first condition if it succeeds, and with the second one if it
fails. -/
def Ensures (work : Procedure ε κ φ α) (success : α → Host κ φ → Prop)
    (failure : ε → Host κ φ → Prop) (host : Host κ φ) : Prop :=
  match outcome work host with
  | (.ok value, later) => success value later
  | (.error fault, later) => failure fault later

section Ensures

variable {success : α → Host κ φ → Prop} {failure : ε → Host κ φ → Prop} {host : Host κ φ}

theorem ensures_of_ok {work : Procedure ε κ φ α} {later : Host κ φ} {value : α}
    (done : outcome work host = (.ok value, later)) :
    Ensures work success failure host ↔ success value later := by
  rw [Ensures, done]

theorem ensures_of_error {work : Procedure ε κ φ α} {later : Host κ φ} {fault : ε}
    (failed : outcome work host = (.error fault, later)) :
    Ensures work success failure host ↔ failure fault later := by
  rw [Ensures, failed]

theorem ensures_bind {work : Procedure ε κ φ α} {next : α → Procedure ε κ φ β}
    {success : β → Host κ φ → Prop} :
    Ensures (work >>= next) success failure host ↔
      Ensures work (fun value => Ensures (next value) success failure) failure host := by
  rcases computed : outcome work host with ⟨result, later⟩
  cases result with
  | ok value =>
      rw [ensures_of_ok computed, Ensures, outcome_bind_ok computed]
      rfl
  | error fault =>
      rw [ensures_of_error computed, ensures_of_error (outcome_bind_error computed next)]

theorem Ensures.cases {work : Procedure ε κ φ α} (ensured : Ensures work success failure host) :
    (∃ fault later, outcome work host = (.error fault, later) ∧ failure fault later) ∨
      ∃ value later, outcome work host = (.ok value, later) ∧ success value later := by
  rcases computed : outcome work host with ⟨result, later⟩
  cases result with
  | ok value => exact .inr ⟨value, later, rfl, (ensures_of_ok computed).mp ensured⟩
  | error fault => exact .inl ⟨fault, later, rfl, (ensures_of_error computed).mp ensured⟩

theorem Ensures.mono {work : Procedure ε κ φ α} {weaker : α → Host κ φ → Prop}
    {weakerFailure : ε → Host κ φ → Prop} (ensured : Ensures work success failure host)
    (onSuccess : ∀ value later, success value later → weaker value later)
    (onFailure : ∀ fault later, failure fault later → weakerFailure fault later) :
    Ensures work weaker weakerFailure host := by
  rcases ensured.cases with ⟨fault, later, failed, held⟩ | ⟨value, later, done, held⟩
  · exact (ensures_of_error failed).mpr (onFailure fault later held)
  · exact (ensures_of_ok done).mpr (onSuccess value later held)

/-- What every way to go on ensures, if nothing is asked of a failure. -/
theorem ensures_bind_of_forall (work : Procedure ε κ φ α) {next : α → Procedure ε κ φ β}
    {success : β → Host κ φ → Prop}
    (ensured : ∀ value later, Ensures (next value) success (fun _ _ => True) later) :
    Ensures (work >>= next) success (fun _ _ => True) host := by
  apply ensures_bind.mpr
  rcases computed : outcome work host with ⟨result, later⟩
  cases result with
  | ok value => exact (ensures_of_ok computed).mpr (ensured value later)
  | error fault => exact (ensures_of_error computed).mpr trivial

/-- What a procedure ensures when it succeeds, it ensures whatever follows a failure of it. -/
theorem Ensures.onFailure {work : Procedure ε κ φ α}
    (ensured : Ensures work success (fun _ _ => True) host)
    (afterwards : ε → Procedure ε κ φ Unit) :
    Ensures (work.onFailure afterwards) success (fun _ _ => True) host := by
  rcases ensured.cases with ⟨fault, later, failed, -⟩ | ⟨value, later, done, held⟩
  · rw [Ensures, outcome_onFailure_error failed]
    exact ensures_bind_of_forall (afterwards fault) fun _ _ => trivial
  · exact (ensures_of_ok (outcome_onFailure_ok done afterwards)).mpr held

end Ensures

/-- Whether a procedure leaves the files as they are, whether or not it succeeds. -/
def KeepsFiles (work : Procedure ε κ φ α) : Prop :=
  ∀ host, (outcome work host).2.files = host.files

theorem KeepsFiles.bind {work : Procedure ε κ φ α} {next : α → Procedure ε κ φ β}
    (first : KeepsFiles work) (second : ∀ value, KeepsFiles (next value)) :
    KeepsFiles (work >>= next) := by
  intro host
  have kept := first host
  rcases computed : outcome work host with ⟨result, later⟩
  rw [computed] at kept
  cases result with
  | ok value => rw [outcome_bind_ok computed, second value later, kept]
  | error fault => rw [outcome_bind_error computed, kept]

theorem keepsFiles_pure (value : α) : KeepsFiles (pure value : Procedure ε κ φ α) :=
  fun _ => rfl

theorem keepsFiles_throw (fault : ε) : KeepsFiles (throw fault : Procedure ε κ φ α) :=
  fun _ => rfl

theorem keepsFiles_recordAll (entries : List LogEntry) :
    KeepsFiles (recordAll entries : Procedure ε κ φ Unit) :=
  fun _ => rfl

theorem keepsFiles_inform (text : String) : KeepsFiles (inform text : Procedure ε κ φ Unit) :=
  fun _ => rfl

theorem KeepsFiles.onFailure {work : Procedure ε κ φ α} {afterwards : ε → Procedure ε κ φ Unit}
    (first : KeepsFiles work) (second : ∀ fault, KeepsFiles (afterwards fault)) :
    KeepsFiles (work.onFailure afterwards) := by
  intro host
  have kept := first host
  rcases computed : outcome work host with ⟨result, later⟩
  rw [computed] at kept
  cases result with
  | ok value => rw [outcome_onFailure_ok computed, kept]
  | error fault =>
      have thrown := (second fault).bind fun _ => keepsFiles_throw (α := α) fault
      rw [outcome_onFailure_error computed, thrown later, kept]

end Procedure

end OverlayNet
