import Mathlib
import OverlayNet.Proofs.Procedure

set_option autoImplicit false

/-! # The part of a host that a procedure touches

The work of one stage touches one part of a host and leaves the others as they are, whatever it
comes to. What it logs is neither a failure nor a change of stage: both are left to whoever runs the
stages. -/

namespace OverlayNet

/-- The parts of a host, besides its log. -/
inductive Part where
  | files
  | links
  | filter
deriving DecidableEq

namespace LogEntry

/-- How a line starts that tells of a change of stage. -/
def transitionOpening : String := "Container "

def IsTransition (entry : LogEntry) : Prop :=
  entry.severity = .info ∧ transitionOpening.toList <+: entry.text.toList
deriving Decidable

def IsFailure (entry : LogEntry) : Prop :=
  entry.severity = .error
deriving Decidable

/-- Whether an entry is one that any step may log. -/
def Ordinary (entry : LogEntry) : Prop :=
  ¬ entry.IsTransition ∧ ¬ entry.IsFailure

/-- Whether a text differs from the opening of a change of stage before either ends. -/
def Apart (text : String) : Prop :=
  ¬ transitionOpening.toList <+: text.toList ∧ ¬ text.toList <+: transitionOpening.toList
deriving Decidable

theorem Apart.append {text : String} (apart : Apart text) (rest : String) :
    Apart (text ++ rest) := by
  obtain ⟨notAfter, notBefore⟩ := apart
  rw [Apart, String.toList_append]
  constructor
  · intro opens
    rcases List.prefix_or_prefix_of_prefix opens (List.prefix_append _ _) with after | before
    · exact notAfter after
    · exact notBefore before
  · exact fun before => notBefore ((List.prefix_append _ _).trans before)

theorem ordinary_info {text : String} (apart : Apart text) : Ordinary ⟨.info, text⟩ :=
  ⟨fun transition => apart.1 transition.2, by simp [IsFailure]⟩

theorem ordinary_warning (text : String) : Ordinary ⟨.warning, text⟩ := by
  simp [Ordinary, IsTransition, IsFailure]

end LogEntry

variable {ε κ φ α β : Type}

namespace Host

/-- Whether a host is an earlier one in which at most one part is different and ordinary entries
have been logged. -/
structure Alters (part : Part) (before after : Host κ φ) : Prop where
  files : part ≠ .files → after.files = before.files
  links : part ≠ .links → after.links = before.links
  filter : part ≠ .filter → after.filter = before.filter
  log : ∃ entries, after.log = before.log ++ entries ∧ ∀ entry ∈ entries, entry.Ordinary

theorem Alters.refl (part : Part) (host : Host κ φ) : host.Alters part host :=
  ⟨fun _ => rfl, fun _ => rfl, fun _ => rfl, [], by simp⟩

theorem Alters.trans {part : Part} {first second third : Host κ φ}
    (earlier : first.Alters part second) (later : second.Alters part third) :
    first.Alters part third := by
  constructor
  case files => exact fun other => (later.files other).trans (earlier.files other)
  case links => exact fun other => (later.links other).trans (earlier.links other)
  case filter => exact fun other => (later.filter other).trans (earlier.filter other)
  case log =>
    obtain ⟨before, earlierLog, beforeOrdinary⟩ := earlier.log
    obtain ⟨behind, laterLog, behindOrdinary⟩ := later.log
    refine ⟨before ++ behind, ?_, ?_⟩
    · rw [laterLog, earlierLog, List.append_assoc]
    · intro entry member
      exact (List.mem_append.mp member).elim (beforeOrdinary entry) (behindOrdinary entry)

theorem alters_logging (part : Part) (host : Host κ φ) {entries : List LogEntry}
    (ordinary : ∀ entry ∈ entries, entry.Ordinary) :
    host.Alters part { host with log := host.log ++ entries } :=
  ⟨fun _ => rfl, fun _ => rfl, fun _ => rfl, entries, rfl, ordinary⟩

end Host

namespace Procedure

/-- Whether a procedure touches no part of a host but one, whether or not it succeeds. -/
def Touches (part : Part) (work : Procedure ε κ φ α) : Prop :=
  ∀ host : Host κ φ, host.Alters part (outcome work host).2

variable {part : Part}

theorem Touches.bind {work : Procedure ε κ φ α} {next : α → Procedure ε κ φ β}
    (first : Touches part work) (second : ∀ value, Touches part (next value)) :
    Touches part (work >>= next) := by
  intro host
  have altered := first host
  rcases computed : outcome work host with ⟨result, later⟩
  rw [computed] at altered
  cases result with
  | ok value =>
      rw [outcome_bind_ok computed]
      exact altered.trans (second value later)
  | error fault =>
      rw [outcome_bind_error computed]
      exact altered

theorem Touches.keepsFiles {work : Procedure ε κ φ α} (touches : Touches part work)
    (other : part ≠ .files) : KeepsFiles work :=
  fun host => (touches host).files other

theorem touches_pure (value : α) : Touches part (pure value : Procedure ε κ φ α) :=
  Host.Alters.refl part

theorem touches_throw (fault : ε) : Touches part (throw fault : Procedure ε κ φ α) :=
  Host.Alters.refl part

theorem touches_ofExcept (result : Except ε α) :
    Touches part (ofExcept result : Procedure ε κ φ α) :=
  Host.Alters.refl part

theorem touches_recordAll {entries : List LogEntry}
    (ordinary : ∀ entry ∈ entries, entry.Ordinary) :
    Touches part (recordAll entries : Procedure ε κ φ Unit) :=
  fun host => host.alters_logging part ordinary

theorem touches_inform {text : String} (apart : LogEntry.Apart text) :
    Touches part (inform text : Procedure ε κ φ Unit) := by
  apply touches_recordAll
  intro entry member
  rw [List.mem_singleton.mp member]
  exact LogEntry.ordinary_info apart

theorem touches_readFiles (failure : Os.Cause → ε) (operation : Files.Tree → Except Os.Cause α) :
    Touches part (readFiles failure operation : Procedure ε κ φ α) :=
  Host.Alters.refl part

theorem touches_changeFiles (failure : Os.Cause → ε)
    (operation : Files.Tree → Except Os.Cause Files.Tree) :
    Touches .files (changeFiles failure operation : Procedure ε κ φ Unit) := by
  apply Touches.bind (touches_readFiles failure operation)
  intro files host
  exact ⟨fun other => absurd rfl other, fun _ => rfl, fun _ => rfl, [], (List.append_nil _).symm,
    by simp⟩

theorem touches_ask (channel : LinkChannel κ) (request : LinkRequest) :
    Touches .links (ask channel request : Action κ φ request.Answer) := by
  intro host
  exact ⟨fun _ => rfl, fun other => absurd rfl other, fun _ => rfl, [], (List.append_nil _).symm,
    by simp⟩

theorem touches_forM {work : β → Procedure ε κ φ Unit} (each : ∀ item, Touches part (work item))
    (items : List β) : Touches part (items.forM work) := by
  induction items with
  | nil => exact touches_pure ()
  | cons item rest ih => exact (each item).bind fun _ => ih

end Procedure

end OverlayNet
