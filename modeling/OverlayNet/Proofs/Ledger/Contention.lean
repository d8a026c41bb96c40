import Mathlib
import OverlayNet.Proofs.Ledger.Issuing

set_option autoImplicit false

/-! # Acquisitions at the same time

Several processes acquire an address from the same ledger, and their steps mix in any order. The
lock is granted to a process only while no other one holds it. With the lock, whatever the order of
the steps, the processes come to what they come to one after the other. -/

namespace OverlayNet.Allocation

open Files (Location Tree)

variable {κ φ : Type} {count : Nat}

/-- How far a process has come with the acquisition of an address. -/
inductive Phase where
  | idle
  /-- The lock file is open, and the lock is asked for. -/
  | waiting
  | entered
  | peeked (stored? : Option String)
  | decided (text : String)
  /-- The update has come to its end, and the lock is not yet given back. -/
  | updated (outcome : Except Fault String)
  | finished (outcome : Except Fault Cidr)
deriving DecidableEq

namespace Phase

def holdsLock : Phase → Bool
  | .idle => false
  | .waiting => false
  | .entered => true
  | .peeked _ => true
  | .decided _ => true
  | .updated _ => true
  | .finished _ => false

def behind {α : Type} (work : Action κ φ α) (onward : α → Phase) (failed : Fault → Phase)
    (host : Host κ φ) : Phase × Host κ φ :=
  match work.outcome host with
  | (.ok value, later) => (onward value, later)
  | (.error fault, later) => (failed fault, later)

/-- One step of an acquisition that is not blocked. -/
def advance (ledger : Ledger) (node cluster : Cidr) : Phase → Host κ φ → Phase × Host κ φ
  | .idle => behind ledger.takeLock (fun _ => .waiting) fun fault => .finished (.error fault)
  | .waiting => fun host => (.entered, host)
  | .entered => behind ledger.peek .peeked fun fault => .updated (.error fault)
  | .peeked stored? =>
      behind (Ledger.decide (next node cluster stored?)) .decided
        fun fault => .updated (.error fault)
  | .decided text =>
      behind (ledger.store text) (fun _ => .updated (.ok text)) fun fault => .updated (.error fault)
  | .updated outcome => fun host => (.finished (outcome.bind Cidr.read), host)
  | .finished outcome => fun host => (.finished outcome, host)

end Phase

private theorem Phase.behind_snd {α : Type} (work : Action κ φ α) (onward : α → Phase)
    (failed : Fault → Phase) (host : Host κ φ) :
    (behind work onward failed host).2 = (work.outcome host).2 := by
  rcases computed : work.outcome host with ⟨result, later⟩
  cases result with
  | ok value => rw [behind, computed]
  | error fault => rw [behind, computed]

private theorem Phase.behind_fst (condition : Phase → Prop) {α : Type} {work : Action κ φ α}
    {onward : α → Phase} {failed : Fault → Phase} {host : Host κ φ}
    (goesOn : ∀ value, condition (onward value)) (stops : ∀ fault, condition (failed fault)) :
    condition (behind work onward failed host).1 := by
  rcases computed : work.outcome host with ⟨result, later⟩
  cases result with
  | ok value =>
      rw [behind, computed]
      exact goesOn value
  | error fault =>
      rw [behind, computed]
      exact stops fault

/-- A host on which processes acquire addresses, and how far each of them has come. -/
structure Contention (κ φ : Type) (count : Nat) where
  host : Host κ φ
  phases : Fin count → Phase

namespace Contention

def start (host : Host κ φ) : Contention κ φ count :=
  ⟨host, fun _ => .idle⟩

/-- Whether a process asks for the lock of a ledger while one holds it. -/
def Blocked (ledger : Ledger) (state : Contention κ φ count) (process : Fin count) : Prop :=
  ledger.locked = true ∧ state.phases process = .waiting ∧
    ∃ other, (state.phases other).holdsLock = true
deriving Decidable

/-- The turn of a process: a step of its acquisition, unless it is blocked. -/
def turn (ledger : Ledger) (node cluster : Cidr) (state : Contention κ φ count)
    (process : Fin count) : Contention κ φ count :=
  if state.Blocked ledger process then state
  else
    let (phase, host) := (state.phases process).advance ledger node cluster state.host
    ⟨host, Function.update state.phases process phase⟩

def run (ledger : Ledger) (node cluster : Cidr) (host : Host κ φ) (turns : List (Fin count)) :
    Contention κ φ count :=
  turns.foldl (turn ledger node cluster) (start host)

/-- Whether all processes have come to their ends. -/
def Completed (state : Contention κ φ count) : Prop :=
  ∀ process, ∃ outcome, state.phases process = .finished outcome

end Contention

/-- What acquisitions one after the other come to, and the host behind them. -/
def acquireEach (ledger : Ledger) (node cluster : Cidr) (host : Host κ φ) :
    Nat → List (Except Fault Cidr) × Host κ φ
  | 0 => ([], host)
  | count + 1 =>
      let (earlier, middle) := acquireEach ledger node cluster host count
      let (outcome, later) := (acquire ledger node cluster).outcome middle
      (earlier ++ [outcome], later)

private theorem acquireEach_succ (ledger : Ledger) (node cluster : Cidr) (host : Host κ φ)
    (count : Nat) :
    acquireEach ledger node cluster host (count + 1) =
      ((acquireEach ledger node cluster host count).1 ++
          [((acquire ledger node cluster).outcome
            (acquireEach ledger node cluster host count).2).1],
        ((acquire ledger node cluster).outcome
          (acquireEach ledger node cluster host count).2).2) :=
  rfl

section Rest

variable {ledger : Ledger} {node cluster : Cidr} {host : Host κ φ}

-- An acquisition from one of its steps on.
def finishStoring (ledger : Ledger) (text : String) : Action κ φ Cidr := do
  ledger.store text
  Procedure.ofExcept (Cidr.read text)

def finishDeciding (ledger : Ledger) (node cluster : Cidr) (stored? : Option String) :
    Action κ φ Cidr := do
  let text ← Ledger.decide (next node cluster stored?)
  finishStoring ledger text

def finishGuarded (ledger : Ledger) (node cluster : Cidr) : Action κ φ Cidr := do
  let stored? ← ledger.peek
  finishDeciding ledger node cluster stored?

private theorem acquire_eq (ledger : Ledger) (node cluster : Cidr) :
    (acquire ledger node cluster : Action κ φ Cidr) =
      ledger.takeLock >>= fun _ => finishGuarded ledger node cluster := by
  simp only [acquire, Ledger.update, finishGuarded, finishDeciding, finishStoring, bind_assoc,
    pure_bind]

def Phase.rest (ledger : Ledger) (node cluster : Cidr) : Phase → Action κ φ Cidr
  | .idle => acquire ledger node cluster
  | .waiting => finishGuarded ledger node cluster
  | .entered => finishGuarded ledger node cluster
  | .peeked stored? => finishDeciding ledger node cluster stored?
  | .decided text => finishStoring ledger text
  | .updated outcome => Procedure.ofExcept (outcome.bind Cidr.read)
  | .finished outcome => Procedure.ofExcept outcome

theorem Phase.outcome_rest_behind {α : Type} {work : Action κ φ α} {onward : α → Phase}
    {failed : Fault → Phase} {remainder : α → Action κ φ Cidr}
    (goesOn : ∀ value, (onward value).rest ledger node cluster = remainder value)
    (stops : ∀ fault, (failed fault).rest ledger node cluster =
      (Procedure.ofExcept (.error fault) : Action κ φ Cidr)) :
    ((behind work onward failed host).1.rest ledger node cluster).outcome
        (behind work onward failed host).2 = (work >>= remainder).outcome host := by
  rcases computed : work.outcome host with ⟨result, later⟩
  cases result with
  | ok value => rw [behind, computed, Procedure.outcome_bind_ok computed, goesOn]
  | error fault =>
      rw [behind, computed, Procedure.outcome_bind_error computed, stops]
      rfl

/-- A step of an acquisition does a part of it: what is left comes to what was left before. -/
theorem Phase.outcome_rest_advance (phase : Phase) :
    ((phase.advance ledger node cluster host).1.rest ledger node cluster).outcome
        (phase.advance ledger node cluster host).2 =
      (phase.rest ledger node cluster).outcome host := by
  cases phase with
  | idle =>
      rw [rest, acquire_eq]
      exact outcome_rest_behind (fun _ => rfl) fun _ => rfl
  | waiting => rfl
  | entered => exact outcome_rest_behind (fun _ => rfl) fun _ => rfl
  | peeked stored? => exact outcome_rest_behind (fun _ => rfl) fun _ => rfl
  | decided text => exact outcome_rest_behind (fun _ => rfl) fun _ => rfl
  | updated outcome => rfl
  | finished outcome => rfl

end Rest

section LockFile

variable {ledger : Ledger} {node cluster : Cidr} {host : Host κ φ}

/-- Whether the lock file is there, if the ledger has one: opening it changes nothing. -/
def LockFileThere (ledger : Ledger) (files : Tree) : Prop :=
  ledger.locked = true → files.touch ledger.lockPath = .ok files

private theorem Lockable.takeLock (lockable : Lockable ledger host.files) :
    ∃ guarded, ledger.takeLock.outcome host = (.ok (), guarded) ∧
      LockFileThere ledger guarded.files := by
  unfold Ledger.takeLock
  by_cases locked : ledger.locked = true
  · obtain ⟨place, found⟩ := lockable locked
    obtain ⟨files, touched, again⟩ := Files.Tree.touch_of_fileLocation found
    rw [if_pos locked]
    exact ⟨_, Procedure.outcome_changeFiles_ok touched _, fun _ => again⟩
  · rw [if_neg locked]
    exact ⟨host, rfl, fun isLocked => absurd isLocked locked⟩

theorem LockFileThere.takeLock (there : LockFileThere ledger host.files) :
    ledger.takeLock.outcome host = (.ok (), host) := by
  unfold Ledger.takeLock
  by_cases locked : ledger.locked = true
  · rw [if_pos locked]
    exact Procedure.outcome_changeFiles_ok (there locked) _
  · rw [if_neg locked]
    rfl

theorem outcome_acquire_of_taken {guarded : Host κ φ}
    (taken : ledger.takeLock.outcome host = (.ok (), guarded)) :
    (acquire ledger node cluster).outcome host =
      (finishGuarded ledger node cluster).outcome guarded := by
  rw [acquire_eq]
  exact Procedure.outcome_bind_ok taken _

/-- No step takes the lock file away. -/
theorem LockFileThere.advance (there : LockFileThere ledger host.files) (phase : Phase) :
    LockFileThere ledger (phase.advance ledger node cluster host).2.files := by
  -- All but the last step before the end leave the files alone, and that one writes the ledger.
  have kept {α : Type} {work : Action κ φ α} {onward : α → Phase} {failed : Fault → Phase}
      (keeps : (work.outcome host).2.files = host.files) :
      LockFileThere ledger (Phase.behind work onward failed host).2.files := by
    rw [Phase.behind_snd, keeps]
    exact there
  cases phase with
  | idle => exact kept (by rw [there.takeLock])
  | waiting => exact there
  | entered => exact kept rfl
  | peeked stored? =>
      apply kept
      exact ((Procedure.keepsFiles_recordAll _).bind fun _ _ => rfl) host
  | decided text =>
      cases written : host.files.write ledger.path (Bytes.ofText text) with
      | error cause =>
          apply kept
          rw [Ledger.store, Procedure.outcome_changeFiles_error written]
      | ok files =>
          rw [Phase.advance, Phase.behind, Ledger.store, Procedure.outcome_changeFiles_ok written]
          intro locked
          apply Files.Tree.touch_of_write (there locked) written
          intro location place found placeFound same
          exact Files.Tree.fileLocation_appendName_ne (by decide) (by decide) placeFound found
            same.symm
  | updated outcome => exact there
  | finished outcome => exact there

end LockFile

section Order

variable {ledger : Ledger} {node cluster : Cidr} {host : Host κ φ}
  {state : Contention κ φ count} {order : List (Fin count)} {inside : Option (Fin count)}
  {process holder : Fin count}

/-- Whether the processes of a list have finished with what acquisitions one after the other come
to, and all others but at most one are still without the lock. -/
structure Line (ledger : Ledger) (node cluster : Cidr) (host : Host κ φ) (order : List (Fin count))
    (inside : Option (Fin count)) (state : Contention κ φ count) : Prop where
  distinct : order.Nodup
  served : order.map state.phases =
    (acquireEach ledger node cluster host order.length).1.map Phase.finished
  outside : ∀ process ∉ order, some process ≠ inside →
    state.phases process = .idle ∨ state.phases process = .waiting

/-- Whether no process holds the lock, and the next one finds the host as those before left it. -/
structure Free (ledger : Ledger) (node cluster : Cidr) (host : Host κ φ) (order : List (Fin count))
    (state : Contention κ φ count) : Prop
    extends Line ledger node cluster host order none state where
  next : (acquire ledger node cluster).outcome state.host =
    (acquire ledger node cluster).outcome (acquireEach ledger node cluster host order.length).2
  same : (order ≠ [] ∨ ∀ process, state.phases process = .idle) →
    state.host = (acquireEach ledger node cluster host order.length).2
  there : (∃ process, state.phases process ≠ .idle) → LockFileThere ledger state.host.files

/-- Whether a process holds the lock, and what is left to be done by it comes to what its
acquisition behind those before comes to. -/
structure Held (ledger : Ledger) (node cluster : Cidr) (host : Host κ φ) (order : List (Fin count))
    (holder : Fin count) (state : Contention κ φ count) : Prop
    extends Line ledger node cluster host order (some holder) state where
  new : holder ∉ order
  holds : (state.phases holder).holdsLock = true
  rest : ((state.phases holder).rest ledger node cluster).outcome state.host =
    (acquire ledger node cluster).outcome (acquireEach ledger node cluster host order.length).2
  there : LockFileThere ledger state.host.files

/-- Whether the processes behave as if they had come one after the other so far. -/
def Orderly (ledger : Ledger) (node cluster : Cidr) (host : Host κ φ)
    (state : Contention κ φ count) : Prop :=
  ∃ order : List (Fin count), Free ledger node cluster host order state ∨
    ∃ holder, Held ledger node cluster host order holder state

private theorem Line.finished (line : Line ledger node cluster host order inside state)
    (member : process ∈ order) : ∃ outcome, state.phases process = .finished outcome := by
  have phase : state.phases process ∈ order.map state.phases := List.mem_map_of_mem member
  rw [line.served] at phase
  obtain ⟨outcome, -, same⟩ := List.mem_map.mp phase
  exact ⟨outcome, same.symm⟩

theorem Line.update (line : Line ledger node cluster host order inside state)
    (new : process ∉ order) (later : Host κ φ) {phase : Phase} {within : Option (Fin count)}
    (settled : some process ≠ within → phase = .idle ∨ phase = .waiting)
    (others : ∀ other, other ≠ process → some other ≠ within → some other ≠ inside) :
    Line ledger node cluster host order within
      ⟨later, Function.update state.phases process phase⟩ where
  distinct := line.distinct
  served := by
    rw [← line.served]
    apply List.map_congr_left
    intro other member
    exact Function.update_of_ne (ne_of_mem_of_not_mem member new) _ _
  outside := by
    intro other otherNew apart
    dsimp only
    by_cases same : other = process
    · rw [same, Function.update_self]
      exact settled (same ▸ apart)
    · rw [Function.update_of_ne same]
      exact line.outside other otherNew (others other same apart)

private theorem turn_of_blocked (blocked : state.Blocked ledger process) :
    state.turn ledger node cluster process = state := by
  rw [Contention.turn, if_pos blocked]

theorem turn_of_unblocked (unblocked : ¬ state.Blocked ledger process) :
    state.turn ledger node cluster process =
      ⟨((state.phases process).advance ledger node cluster state.host).2,
        Function.update state.phases process
          ((state.phases process).advance ledger node cluster state.host).1⟩ := by
  rw [Contention.turn, if_neg unblocked]

theorem not_blocked_of_ne_waiting (goes : state.phases process ≠ .waiting) :
    ¬ state.Blocked ledger process :=
  fun blocked => goes blocked.2.1

private theorem Line.turn_of_member (line : Line ledger node cluster host order inside state)
    (member : process ∈ order) : state.turn ledger node cluster process = state := by
  obtain ⟨outcome, phase⟩ := line.finished member
  rw [turn_of_unblocked (not_blocked_of_ne_waiting (by simp [phase])), phase]
  simp only [Phase.advance, ← phase, Function.update_eq_self]

/-- A process that has not begun finds the lock file or makes it, and nothing else is different. -/
theorem Free.opens (free : Free ledger node cluster host order state)
    (lockable : Lockable ledger host.files) :
    ∃ opened, ledger.takeLock.outcome state.host = (.ok (), opened) ∧
      LockFileThere ledger opened.files ∧ (order ≠ [] → opened = state.host) := by
  by_cases begun : ∃ process, state.phases process ≠ .idle
  · have there := free.there begun
    exact ⟨state.host, there.takeLock, there, fun _ => rfl⟩
  · have idle : ∀ process, state.phases process = .idle := by simpa using begun
    have empty : order = [] := by
      apply List.eq_nil_iff_forall_not_mem.mpr
      intro process member
      obtain ⟨outcome, phase⟩ := free.finished member
      rw [idle process] at phase
      cases phase
    have same := free.same (.inr idle)
    rw [empty] at same
    have opening : Lockable ledger state.host.files := by
      rw [same]
      exact lockable
    obtain ⟨opened, taken, there⟩ := opening.takeLock
    exact ⟨opened, taken, there, fun nonempty => absurd empty nonempty⟩

private theorem Free.turn_idle (free : Free ledger node cluster host order state)
    (lockable : Lockable ledger host.files) (new : process ∉ order)
    (idle : state.phases process = .idle) :
    Free ledger node cluster host order (state.turn ledger node cluster process) := by
  obtain ⟨opened, taken, there, same⟩ := free.opens lockable
  rw [turn_of_unblocked (not_blocked_of_ne_waiting (by simp [idle])), idle]
  simp only [Phase.advance, Phase.behind, taken]
  constructor
  case toLine => exact free.update new opened (fun _ => .inr rfl) fun _ _ apart => apart
  case next =>
    rw [← free.next, outcome_acquire_of_taken taken, outcome_acquire_of_taken there.takeLock]
  case same =>
    intro either
    rcases either with nonempty | allIdle
    · rw [same nonempty, free.same (.inl nonempty)]
    · have phase : Function.update state.phases process .waiting process = .idle :=
        allIdle process
      rw [Function.update_self] at phase
      cases phase
  case there => exact fun _ => there

private theorem Free.not_blocked (free : Free ledger node cluster host order state)
    (process : Fin count) : ¬ state.Blocked ledger process := by
  rintro ⟨-, -, other, holds⟩
  by_cases member : other ∈ order
  · obtain ⟨outcome, phase⟩ := free.finished member
    simp [phase, Phase.holdsLock] at holds
  · rcases free.outside other member (by simp) with phase | phase
    · simp [phase, Phase.holdsLock] at holds
    · simp [phase, Phase.holdsLock] at holds

/-- The lock is granted to a process that asks for it while it is free. -/
theorem Free.turn_waiting (free : Free ledger node cluster host order state)
    (new : process ∉ order) (waiting : state.phases process = .waiting) :
    Held ledger node cluster host order process (state.turn ledger node cluster process) := by
  have there : LockFileThere ledger state.host.files := free.there ⟨process, by simp [waiting]⟩
  rw [turn_of_unblocked (free.not_blocked process), waiting]
  simp only [Phase.advance]
  constructor
  case toLine => exact free.update new state.host (fun apart => absurd rfl apart) (by simp)
  case new => exact new
  case holds => simp [Phase.holdsLock]
  case rest =>
    rw [← free.next, outcome_acquire_of_taken there.takeLock]
    simp [Phase.rest]
  case there => exact there

private theorem Phase.advance_holdsLock {phase : Phase} (holds : phase.holdsLock = true) :
    (∃ outcome, phase = .updated outcome) ∨
      (phase.advance ledger node cluster host).1.holdsLock = true := by
  cases phase with
  | idle => cases holds
  | waiting => cases holds
  | entered => exact .inr (behind_fst (·.holdsLock = true) (fun _ => rfl) fun _ => rfl)
  | peeked stored? => exact .inr (behind_fst (·.holdsLock = true) (fun _ => rfl) fun _ => rfl)
  | decided text => exact .inr (behind_fst (·.holdsLock = true) (fun _ => rfl) fun _ => rfl)
  | updated outcome => exact .inl ⟨outcome, rfl⟩
  | finished outcome => cases holds

/-- The process with the lock comes to its end as if it had acquired behind those before. -/
theorem Held.turn_updated (held : Held ledger node cluster host order holder state)
    {outcome : Except Fault String} (updated : state.phases holder = .updated outcome) :
    Free ledger node cluster host (order ++ [holder])
      (state.turn ledger node cluster holder) := by
  have rest := held.rest
  rw [updated] at rest
  have whole : acquireEach ledger node cluster host (order ++ [holder]).length =
      ((acquireEach ledger node cluster host order.length).1 ++ [outcome.bind Cidr.read],
        state.host) := by
    rw [List.length_append, List.length_singleton, acquireEach_succ, ← rest]
    rfl
  rw [turn_of_unblocked (not_blocked_of_ne_waiting (by simp [updated])), updated]
  simp only [Phase.advance]
  refine ⟨⟨?distinct, ?served, ?outside⟩, ?next, ?same, ?there⟩
  case distinct =>
    rw [← List.concat_eq_append]
    exact held.distinct.concat held.new
  case served =>
    have earlier : order.map (Function.update state.phases holder
        (.finished (outcome.bind Cidr.read))) = order.map state.phases := by
      apply List.map_congr_left
      intro other member
      exact Function.update_of_ne (ne_of_mem_of_not_mem member held.new) _ _
    rw [whole, List.map_append, List.map_append, List.map_singleton, List.map_singleton]
    dsimp only
    rw [Function.update_self, earlier, held.served]
  case outside =>
    intro other otherNew _
    rw [List.mem_append, List.mem_singleton, not_or] at otherNew
    dsimp only
    rw [Function.update_of_ne otherNew.2]
    exact held.outside other otherNew.1 (by simpa using otherNew.2)
  case next => rw [whole]
  case same =>
    intro _
    rw [whole]
  case there => exact fun _ => held.there

private theorem Held.turn_holder (held : Held ledger node cluster host order holder state)
    (keeps : ((state.phases holder).advance ledger node cluster state.host).1.holdsLock = true) :
    Held ledger node cluster host order holder (state.turn ledger node cluster holder) := by
  have unblocked : ¬ state.Blocked ledger holder := by
    apply not_blocked_of_ne_waiting
    intro waiting
    have holds := held.holds
    rw [waiting] at holds
    cases holds
  rw [turn_of_unblocked unblocked]
  constructor
  case toLine => exact held.update held.new _ (fun apart => absurd rfl apart) fun _ _ apart => apart
  case new => exact held.new
  case holds =>
    dsimp only
    rwa [Function.update_self]
  case rest =>
    dsimp only
    rw [← held.rest, Function.update_self]
    exact Phase.outcome_rest_advance _
  case there => exact held.there.advance _

/-- While a process holds the lock, the others come no further than to ask for it. -/
theorem Held.turn_other (held : Held ledger node cluster host order holder state)
    (locked : ledger.locked = true) (other : process ≠ holder) (new : process ∉ order) :
    Held ledger node cluster host order holder (state.turn ledger node cluster process) := by
  have apart : some process ≠ some holder := fun same => other (Option.some.inj same)
  rcases held.outside process new apart with idle | waiting
  · rw [turn_of_unblocked (not_blocked_of_ne_waiting (by simp [idle])), idle]
    simp only [Phase.advance, Phase.behind, held.there.takeLock]
    constructor
    case toLine => exact held.update new _ (fun _ => .inr rfl) fun _ _ apart => apart
    case new => exact held.new
    case holds =>
      dsimp only
      rw [Function.update_of_ne other.symm]
      exact held.holds
    case rest =>
      dsimp only
      rw [Function.update_of_ne other.symm]
      exact held.rest
    case there => exact held.there
  · rw [turn_of_blocked ⟨locked, waiting, holder, held.holds⟩]
    exact held

theorem Orderly.turn (orderly : Orderly ledger node cluster host state)
    (locked : ledger.locked = true) (lockable : Lockable ledger host.files)
    (process : Fin count) :
    Orderly ledger node cluster host (state.turn ledger node cluster process) := by
  obtain ⟨order, free | ⟨holder, held⟩⟩ := orderly
  case inl =>
    by_cases member : process ∈ order
    · rw [free.turn_of_member member]
      exact ⟨order, .inl free⟩
    · rcases free.outside process member (by simp) with idle | waiting
      · exact ⟨order, .inl (free.turn_idle lockable member idle)⟩
      · exact ⟨order, .inr ⟨process, free.turn_waiting member waiting⟩⟩
  case inr =>
    by_cases member : process ∈ order
    · rw [held.turn_of_member member]
      exact ⟨order, .inr ⟨holder, held⟩⟩
    · by_cases isHolder : process = holder
      · subst isHolder
        rcases Phase.advance_holdsLock held.holds with ⟨outcome, updated⟩ | keeps
        · exact ⟨order ++ [process], .inl (held.turn_updated updated)⟩
        · exact ⟨order, .inr ⟨process, held.turn_holder keeps⟩⟩
      · exact ⟨order, .inr ⟨holder, held.turn_other locked isHolder member⟩⟩

theorem orderly_start (ledger : Ledger) (node cluster : Cidr) (host : Host κ φ) :
    Orderly ledger node cluster host (Contention.start host : Contention κ φ count) := by
  refine ⟨[], .inl ?_⟩
  refine ⟨⟨List.nodup_nil, rfl, ?outside⟩, ?next, ?same, ?there⟩
  case outside => exact fun _ _ _ => .inl rfl
  case next => rfl
  case same => exact fun _ => rfl
  case there =>
    rintro ⟨process, begun⟩
    exact absurd rfl begun

theorem orderly_run (locked : ledger.locked = true) (lockable : Lockable ledger host.files)
    (node cluster : Cidr) (turns : List (Fin count)) :
    Orderly ledger node cluster host (Contention.run ledger node cluster host turns) := by
  -- From the end, since the last turn is taken behind all the others.
  induction turns using List.reverseRecOn with
  | nil => exact orderly_start ledger node cluster host
  | append_singleton turns process ih =>
      rw [Contention.run, List.foldl_append]
      exact ih.turn locked lockable process

/-- Once all processes have finished, they have come to what acquisitions one after the other come
to, in some order. -/
theorem Orderly.finished (orderly : Orderly ledger node cluster host state)
    (complete : state.Completed) :
    ∃ order : List (Fin count), order.Perm (List.finRange count) ∧
      order.map state.phases = (acquireEach ledger node cluster host count).1.map Phase.finished ∧
      state.host = (acquireEach ledger node cluster host count).2 := by
  obtain ⟨order, free | ⟨holder, held⟩⟩ := orderly
  case inr =>
    obtain ⟨outcome, phase⟩ := complete holder
    have holds := held.holds
    rw [phase] at holds
    cases holds
  case inl =>
    have all : ∀ process, process ∈ order := by
      intro process
      by_contra missing
      obtain ⟨outcome, phase⟩ := complete process
      rcases free.outside process missing (by simp) with other | other <;>
        cases phase.symm.trans other
    have perm : order.Perm (List.finRange count) := by
      rw [List.perm_ext_iff_of_nodup free.distinct (List.nodup_finRange count)]
      simp [all]
    have length : order.length = count := by rw [perm.length_eq, List.length_finRange]
    have some : order ≠ [] ∨ ∀ process, state.phases process = .idle := by
      by_cases empty : order = []
      · exact .inr fun process => absurd (all process) (by simp [empty])
      · exact .inl empty
    refine ⟨order, perm, ?_, ?_⟩
    · rw [free.served, length]
    · rw [free.same some, length]

end Order

section Completion

variable {ledger : Ledger} {node cluster : Cidr} {host : Host κ φ}
  {state : Contention κ φ count}

def Phase.remaining : Phase → Nat
  | .idle => 6
  | .waiting => 5
  | .entered => 4
  | .peeked _ => 3
  | .decided _ => 2
  | .updated _ => 1
  | .finished _ => 0

private theorem Phase.remaining_advance (phase : Phase) :
    (∃ outcome, phase = .finished outcome) ∨
      (phase.advance ledger node cluster host).1.remaining < phase.remaining := by
  cases phase with
  | idle => exact .inr (behind_fst (·.remaining < 6) (by simp [remaining]) (by simp [remaining]))
  | waiting => exact .inr (by simp [advance, remaining])
  | entered =>
      exact .inr (behind_fst (·.remaining < 4) (by simp [remaining]) (by simp [remaining]))
  | peeked stored? =>
      exact .inr (behind_fst (·.remaining < 3) (by simp [remaining]) (by simp [remaining]))
  | decided text =>
      exact .inr (behind_fst (·.remaining < 2) (by simp [remaining]) (by simp [remaining]))
  | updated outcome => exact .inr (by simp [advance, remaining])
  | finished outcome => exact .inl ⟨outcome, rfl⟩

theorem Orderly.exists_unblocked (orderly : Orderly ledger node cluster host state)
    (incomplete : ¬ state.Completed) :
    ∃ process, ¬ state.Blocked ledger process ∧
      ¬ ∃ outcome, state.phases process = .finished outcome := by
  obtain ⟨order, free | ⟨holder, held⟩⟩ := orderly
  case inl =>
    obtain ⟨process, unfinished⟩ := not_forall.mp incomplete
    exact ⟨process, free.not_blocked process, unfinished⟩
  case inr =>
    have holds := held.holds
    refine ⟨holder, ?_, ?_⟩
    · rintro ⟨-, waiting, -⟩
      rw [waiting] at holds
      cases holds
    · rintro ⟨outcome, finished⟩
      rw [finished] at holds
      cases holds

/-- The lock never keeps the processes from finishing: from wherever they are, all of them can come
to their ends. -/
theorem Orderly.exists_completion (orderly : Orderly ledger node cluster host state)
    (locked : ledger.locked = true) (lockable : Lockable ledger host.files) :
    ∃ turns : List (Fin count),
      (turns.foldl (Contention.turn ledger node cluster) state).Completed := by
  -- On the number of steps that are left to all processes together.
  induction sum : ∑ process, (state.phases process).remaining using Nat.strong_induction_on
    generalizing state with
  | h steps ih =>
    by_cases complete : state.Completed
    · exact ⟨[], complete⟩
    · obtain ⟨process, unblocked, unfinished⟩ := orderly.exists_unblocked complete
      have fewer : ∑ other, ((state.turn ledger node cluster process).phases other).remaining <
          steps := by
        rw [← sum, turn_of_unblocked unblocked]
        apply Finset.sum_lt_sum
        · intro other _
          by_cases same : other = process
          · subst same
            dsimp only
            rw [Function.update_self]
            exact ((Phase.remaining_advance _).resolve_left unfinished).le
          · dsimp only
            rw [Function.update_of_ne same]
        · refine ⟨process, Finset.mem_univ process, ?_⟩
          dsimp only
          rw [Function.update_self]
          exact (Phase.remaining_advance _).resolve_left unfinished
      obtain ⟨turns, finished⟩ := ih _ fewer (orderly.turn locked lockable process) rfl
      exact ⟨process :: turns, finished⟩

end Completion

section Numbering

variable {ledger : Ledger} {location : Location} {last? : Option Cidr} {host : Host κ φ}

/-- The address a number of places behind another one, with the prefix length of the cluster. -/
def follower (base cluster : Cidr) (places : Nat) : Cidr :=
  (base.offset (UInt32.ofNat places)).withPrefixOf cluster

private theorem issued_eq_follower (node cluster : Cidr) (last? : Option Cidr) :
    issued node cluster last? = follower (last?.getD (bridgeAddress node cluster)) cluster 1 :=
  successor_fst node cluster _

private theorem issued_follower (node cluster base : Cidr) (places : Nat) :
    issued node cluster (some (follower base cluster places)) =
      follower base cluster (places + 1) := by
  have sum : base.address.bits + UInt32.ofNat places + 1 =
      base.address.bits + UInt32.ofNat (places + 1) := by
    rw [UInt32.ofNat_add, UInt32.add_assoc]
    rfl
  rw [issued, successor_fst, Option.getD_some, follower, follower]
  simp only [Cidr.offset, Cidr.withPrefixOf, Ipv4.advance, sum]

private theorem follower_address_injOn (base cluster : Cidr) {first second : Nat}
    (firstSmall : first < 2 ^ 32) (secondSmall : second < 2 ^ 32)
    (same : (follower base cluster first).address = (follower base cluster second).address) :
    first = second :=
  Ipv4.advance_injOn base.address firstSmall secondSmall same

/-- One after the other, acquisitions issue the addresses behind the one that the ledger holds, or
behind that of the bridge, and record the last one. -/
theorem acquireEach_of_holds (node cluster : Cidr)
    (writable : host.files.fileLocation ledger.path = .ok location)
    (lockable : Lockable ledger host.files) (holds : Holds ledger last? host.files) (count : Nat) :
    (acquireEach ledger node cluster host count).1 =
        (List.range count).map (fun index =>
          .ok (follower (last?.getD (bridgeAddress node cluster)) cluster (index + 1))) ∧
      Files.Tree.SameDirectories host.files (acquireEach ledger node cluster host count).2.files ∧
      (count = 0 ∨
        Records location
          (some (follower (last?.getD (bridgeAddress node cluster)) cluster count))
          (acquireEach ledger node cluster host count).2.files) := by
  induction count with
  | zero => exact ⟨rfl, .refl host.files, .inl rfl⟩
  | succ count ih =>
      obtain ⟨outcomes, directories, recorded⟩ := ih
      let middle := (acquireEach ledger node cluster host count).2
      have found : middle.files.fileLocation ledger.path = .ok location :=
        directories.fileLocation writable
      obtain ⟨previous?, previousHolds, next⟩ : ∃ previous?,
          Holds ledger previous? middle.files ∧ issued node cluster previous? =
            follower (last?.getD (bridgeAddress node cluster)) cluster (count + 1) := by
        rcases recorded with rfl | records
        · exact ⟨last?, holds, issued_eq_follower node cluster last?⟩
        · exact ⟨_, records.holds found, issued_follower node cluster _ count⟩
      obtain ⟨later, acquired, issuance⟩ := previousHolds.acquire_ok found
        (lockable.of_sameDirectories directories) node cluster
      have records := issuance.records found
      rw [acquireEach_succ, acquired, next]
      refine ⟨?_, directories.trans issuance.sameDirectories, .inr ?_⟩
      · rw [outcomes, List.range_succ, List.map_append, List.map_singleton]
      · rwa [next] at records

end Numbering

/-- Whatever the order of the steps in which processes acquire addresses from a locked ledger, all
of them can finish. Once they have, they have issued the addresses behind the one that the ledger
held, or behind that of the bridge, each of them once, and the ledger holds the last one. They leave
the host as acquisitions one after the other do. -/
theorem locked_acquisitions_serialize (few : count < 2 ^ 32) (ledger : Ledger)
    (locked : ledger.locked = true) (node cluster : Cidr) (host : Host κ φ)
    (location place : Location) (writable : host.files.fileLocation ledger.path = .ok location)
    (lockable : host.files.fileLocation ledger.lockPath = .ok place) (last? : Option Cidr)
    (holds : Holds ledger last? host.files) (turns : List (Fin count)) :
    (∃ further, (Contention.run ledger node cluster host (turns ++ further)).Completed) ∧
    ((Contention.run ledger node cluster host turns).Completed →
    ∃ (order : List (Fin count)) (returned : List Cidr),
      order.Perm (List.finRange count) ∧
      order.map (Contention.run ledger node cluster host turns).phases =
        returned.map (fun address => .finished (.ok address)) ∧
      returned = (List.range count).map (fun index =>
        ((last?.getD (bridgeAddress node cluster)).offset (UInt32.ofNat (index + 1))).withPrefixOf
          cluster) ∧
      (returned.map Cidr.address).Nodup ∧
      (∀ last, returned.getLast? = some last →
        (Contention.run ledger node cluster host turns).host.files.read ledger.path =
          .ok (Bytes.ofText last.text)) ∧
      acquireEach ledger node cluster host count =
        (returned.map .ok, (Contention.run ledger node cluster host turns).host)) := by
  have opening : Lockable ledger host.files := fun _ => ⟨place, lockable⟩
  have orderly : Orderly ledger node cluster host
      (Contention.run ledger node cluster host turns) :=
    orderly_run locked opening node cluster turns
  constructor
  · obtain ⟨further, finished⟩ := orderly.exists_completion locked opening
    refine ⟨further, ?_⟩
    rw [Contention.run, List.foldl_append]
    exact finished
  intro complete
  obtain ⟨order, perm, phases, sameHost⟩ := orderly.finished complete
  obtain ⟨outcomes, directories, recorded⟩ :=
    acquireEach_of_holds node cluster writable opening holds count
  refine ⟨order, _, perm, ?phases, rfl, ?distinct, ?last, ?serial⟩
  case phases =>
    rw [phases, outcomes, List.map_map, List.map_map]
    rfl
  case distinct =>
    rw [List.map_map]
    apply List.Nodup.map_on _ List.nodup_range
    intro first firstMember second secondMember same
    rw [List.mem_range] at firstMember secondMember
    have equal := follower_address_injOn (last?.getD (bridgeAddress node cluster)) cluster
      (by omega) (by omega) same
    omega
  case last =>
    intro last isLast
    rcases recorded with rfl | records
    · cases isLast
    · obtain ⟨mode, held⟩ := records
      have final : last = follower (last?.getD (bridgeAddress node cluster)) cluster count := by
        cases count with
        | zero => cases isLast
        | succ count =>
            rw [List.range_succ, List.map_append, List.map_singleton, List.getLast?_concat]
              at isLast
            exact (Option.some.inj isLast).symm
      rw [sameHost, final]
      exact Files.Tree.read_of_node? (directories.fileLocation writable) held
  case serial =>
    rw [sameHost, List.map_map]
    exact Prod.ext outcomes rfl

/-- Two processes of which the second one is the first to get the lock, while the other asks for it
in vain. -/
def sampleTurns : List (Fin 2) := [0, 1, 1, 0, 1, 0, 1, 1, 0, 1, 0, 0, 0, 0, 0]

theorem locked_acquisitions_serialize_two :
    ∃ order : List (Fin 2), order.Perm (List.finRange 2) ∧
      order.map (Contention.run ⟨⟨"ledger"⟩, true⟩ sampleNode sampleCluster .bare
          sampleTurns).phases =
        [.finished (.ok ⟨⟨0x0a200102⟩, 16, by decide⟩),
          .finished (.ok ⟨⟨0x0a200103⟩, 16, by decide⟩)] := by
  have complete : (Contention.run (⟨⟨"ledger"⟩, true⟩ : Ledger) sampleNode sampleCluster .bare
      sampleTurns).Completed := by
    intro process
    fin_cases process
    · exact ⟨.ok ⟨⟨0x0a200103⟩, 16, by decide⟩, by decide +kernel⟩
    · exact ⟨.ok ⟨⟨0x0a200102⟩, 16, by decide⟩, by decide +kernel⟩
  have absent : Holds ⟨⟨"ledger"⟩, true⟩ none Host.bare.files := by
    change Ledger.storedIn _ _ = .ok none
    decide +kernel
  obtain ⟨order, returned, perm, phases, rfl, -⟩ :=
    locked_acquisitions_serialize (by decide) ⟨⟨"ledger"⟩, true⟩ rfl sampleNode sampleCluster
      .bare ["ledger"] ["ledger.lock"] (by decide +kernel) (by decide +kernel) none
      absent sampleTurns |>.2 complete
  exact ⟨order, perm, phases⟩

/-- Without the lock two processes can come by the same address. -/
example :
    (Contention.run ⟨⟨"ledger"⟩, false⟩ sampleNode sampleCluster .bare
        [0, 1, 0, 1, 0, 1, 0, 1, 0, 1, (0 : Fin 2), 1]).phases =
      fun _ => .finished (.ok ⟨⟨0x0a200102⟩, 16, by decide⟩) := by
  decide +kernel

end OverlayNet.Allocation
