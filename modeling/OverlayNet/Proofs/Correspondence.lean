import Mathlib
import OverlayNet.Proofs.Procedure

set_option autoImplicit false

/-! # Procedures side by side

Two procedures run on two hosts that are related in some way. They correspond if they come to the
same and leave the hosts related. The links and the packet filters of the hosts may be of different
kinds. -/

namespace OverlayNet.Procedure

variable {ε κ φ μ ψ α β : Type} {related : Host κ φ → Host μ ψ → Prop}

def Corresponds (related : Host κ φ → Host μ ψ → Prop) (work : Procedure ε κ φ α)
    (other : Procedure ε μ ψ α) : Prop :=
  ∀ first second, related first second →
    (outcome work first).1 = (outcome other second).1 ∧
      related (outcome work first).2 (outcome other second).2

theorem Corresponds.bind {work : Procedure ε κ φ α} {other : Procedure ε μ ψ α}
    {next : α → Procedure ε κ φ β} {otherNext : α → Procedure ε μ ψ β}
    (begins : Corresponds related work other)
    (goesOn : ∀ value, Corresponds related (next value) (otherNext value)) :
    Corresponds related (work >>= next) (other >>= otherNext) := by
  intro first second alike
  obtain ⟨same, alikeBehind⟩ := begins first second alike
  rcases computed : outcome work first with ⟨result, later⟩
  rcases otherComputed : outcome other second with ⟨otherResult, otherLater⟩
  rw [computed, otherComputed] at same alikeBehind
  obtain rfl := same
  cases result with
  | ok value =>
      rw [outcome_bind_ok computed, outcome_bind_ok otherComputed]
      exact goesOn value later otherLater alikeBehind
  | error fault =>
      rw [outcome_bind_error computed, outcome_bind_error otherComputed]
      exact ⟨rfl, alikeBehind⟩

theorem corresponds_pure (value : α) :
    Corresponds related (pure value : Procedure ε κ φ α) (pure value : Procedure ε μ ψ α) :=
  fun _ _ alike => ⟨rfl, alike⟩

theorem corresponds_throw (fault : ε) :
    Corresponds related (throw fault : Procedure ε κ φ α) (throw fault : Procedure ε μ ψ α) :=
  fun _ _ alike => ⟨rfl, alike⟩

theorem corresponds_ofExcept (result : Except ε α) :
    Corresponds related (ofExcept result : Procedure ε κ φ α) (ofExcept result) :=
  fun _ _ alike => ⟨rfl, alike⟩

/-- Logging the same, if that keeps hosts related. -/
theorem corresponds_recordAll {entries : List LogEntry}
    (logs : ∀ first second, related first second →
      related { first with log := first.log ++ entries }
        { second with log := second.log ++ entries }) :
    Corresponds related (recordAll entries : Procedure ε κ φ Unit) (recordAll entries) :=
  fun first second alike => ⟨rfl, logs first second alike⟩

/-- Reading what is the same on related hosts. -/
theorem corresponds_readFiles {operation other : Files.Tree → Except Os.Cause α}
    (failure : Os.Cause → ε)
    (same : ∀ first second, related first second → operation first.files = other second.files) :
    Corresponds related (readFiles failure operation : Procedure ε κ φ α)
      (readFiles failure other) := by
  intro first second alike
  refine ⟨?_, alike⟩
  exact congrArg (Except.mapError failure) (same first second alike)

/-- Changes of the files that are refused for the same cause, or keep the hosts related. -/
theorem corresponds_changeFiles {operation other : Files.Tree → Except Os.Cause Files.Tree}
    (failure : Os.Cause → ε)
    (same : ∀ first second, related first second →
      (∃ cause, operation first.files = .error cause ∧ other second.files = .error cause) ∨
        ∃ files otherFiles, operation first.files = .ok files ∧
          other second.files = .ok otherFiles ∧
          related { first with files } { second with files := otherFiles }) :
    Corresponds related (changeFiles failure operation : Procedure ε κ φ Unit)
      (changeFiles failure other) := by
  intro first second alike
  rcases same first second alike with
    ⟨cause, refused, otherRefused⟩ | ⟨files, otherFiles, changed, otherChanged, behind⟩
  · rw [outcome_changeFiles_error refused, outcome_changeFiles_error otherRefused]
    exact ⟨rfl, alike⟩
  · rw [outcome_changeFiles_ok changed, outcome_changeFiles_ok otherChanged]
    exact ⟨rfl, behind⟩

end OverlayNet.Procedure
