import Mathlib
import OverlayNet.Masquerade.Transport

set_option autoImplicit false

/-! # Opening late

A transport that is opened on its first use answers like one that has been open all the time, but
for the exchanges before opening succeeds: those get the fault of opening, and their batches are not
sent. Whoever opens is asked once for each of them and once more, and never again. -/

namespace OverlayNet.Masquerade

variable {φ ω ι : Type}

/-- The answers to batches that are exchanged one after the other, and the state behind them. -/
def Transport.exchangeAll (transport : Transport φ) :
    List Batch → φ → List (Except Fault (List Acknowledgement)) × φ
  | [], state => ([], state)
  | batch :: rest, state =>
      let (outcome, next) := transport batch state
      let (outcomes, last) := Transport.exchangeAll transport rest next
      (outcome :: outcomes, last)

/-- Whether an opener that is called again and again fails with these faults, one after the other.
-/
inductive Opener.Fails (opening : Opener ω ι) : ω → List Fault → ω → Prop where
  | nil (opener : ω) : Fails opening opener [] opener
  | cons {opener next last : ω} {fault : Fault} {faults : List Fault}
      (refused : opening opener = (.error fault, next)) (later : Fails opening next faults last) :
      Fails opening opener (fault :: faults) last

/-- An opener that counts its calls, of a transport that keeps the batches it is given. -/
def Opener.watched (opening : Opener ω ι) : Opener (ω × Nat) (ι × List Batch) :=
  fun (opener, calls) =>
    let (outcome, next) := opening opener
    (outcome.map fun inner => (inner, []), (next, calls + 1))

def Transport.watched (exchange : Transport ι) : Transport (ι × List Batch) :=
  fun batch (inner, sent) =>
    let (outcome, next) := exchange batch inner
    (outcome, (next, sent ++ [batch]))

section Exchanges

variable {transport : Transport φ}

private theorem exchangeAll_append (first second : List Batch) (state : φ) :
    transport.exchangeAll (first ++ second) state =
      let (outcomes, next) := transport.exchangeAll first state
      let (others, last) := transport.exchangeAll second next
      (outcomes ++ others, last) := by
  induction first generalizing state with
  | nil => rfl
  | cons batch rest ih => simp only [List.cons_append, Transport.exchangeAll, ih]

private theorem exchangeAll_watched (batches : List Batch) (state : φ) (sent : List Batch) :
    transport.watched.exchangeAll batches (state, sent) =
      ((transport.exchangeAll batches state).1,
        (transport.exchangeAll batches state).2, sent ++ batches) := by
  induction batches generalizing state sent with
  | nil => simp [Transport.exchangeAll]
  | cons batch rest ih =>
      simp only [Transport.exchangeAll, Transport.watched] at ih ⊢
      simp [ih]

end Exchanges

namespace Opener

variable {opening : Opener ω ι} {opener middle last : ω} {faults : List Fault}

private theorem Fails.take (fails : opening.Fails opener faults last) (count : Nat) :
    ∃ middle, opening.Fails opener (faults.take count) middle := by
  induction fails generalizing count with
  | nil opener => exact ⟨opener, by simpa using .nil opener⟩
  | cons refused later ih =>
      cases count with
      | zero => exact ⟨_, .nil _⟩
      | succ count =>
          obtain ⟨middle, front⟩ := ih count
          exact ⟨middle, .cons refused front⟩

private theorem Fails.watched (fails : opening.Fails opener faults last) (calls : Nat) :
    opening.watched.Fails (opener, calls) faults (last, calls + faults.length) := by
  induction fails generalizing calls with
  | nil opener => exact .nil _
  | cons refused later ih =>
      have counted := ih (calls + 1)
      rw [Nat.add_assoc, Nat.add_comm 1] at counted
      refine .cons ?_ counted
      simp only [Opener.watched, refused]
      rfl

/-- An opener fails as often as it is called, or fails some times and then succeeds. -/
theorem exists_fails (opening : Opener ω ι) (calls : Nat) (opener : ω) :
    ∃ faults before, opening.Fails opener faults before ∧
      (faults.length = calls ∨
        faults.length < calls ∧ ∃ inner after, opening before = (.ok inner, after)) := by
  induction calls generalizing opener with
  | zero => exact ⟨[], opener, .nil opener, .inl rfl⟩
  | succ calls ih =>
      rcases called : opening opener with ⟨outcome, next⟩
      cases outcome with
      | ok inner => exact ⟨[], opener, .nil opener, .inr ⟨Nat.succ_pos calls, inner, next, called⟩⟩
      | error fault =>
          obtain ⟨faults, before, fails, ends⟩ := ih next
          refine ⟨fault :: faults, before, .cons called fails, ?_⟩
          simpa using ends

end Opener

namespace Lazy

variable {opening : Opener ω ι} {exchange : Transport ι} {opener before after : ω}
  {faults : List Fault} {inner : ι} {batches : List Batch}

/-- Once it is open, a transport answers like the one behind it, and nothing is opened any more. -/
theorem exchangeAll_open (opener : ω) (inner : ι) (batches : List Batch) :
    (transport opening exchange).exchangeAll batches ⟨opener, some inner⟩ =
      ((exchange.exchangeAll batches inner).1,
        ⟨opener, some (exchange.exchangeAll batches inner).2⟩) := by
  induction batches generalizing inner with
  | nil => rfl
  | cons batch rest ih => simp only [Transport.exchangeAll, transport, ih]

private theorem exchangeAll_failing (fails : opening.Fails opener faults before)
    (each : batches.length = faults.length) :
    (transport opening exchange).exchangeAll batches (closed opener) =
      (faults.map .error, closed before) := by
  induction fails generalizing batches with
  | nil opener =>
      obtain rfl := List.length_eq_zero_iff.mp each
      rfl
  | @cons opener next last fault faults refused later ih =>
      obtain ⟨batch, rest, rfl⟩ := List.exists_cons_of_length_eq_add_one each
      have restEach : rest.length = faults.length := by simpa using each
      have behind := ih restEach
      simp only [closed] at behind ⊢
      simp only [Transport.exchangeAll, transport, refused, behind, List.map_cons]

private theorem exchangeAll_opening (opened : opening before = (.ok inner, after))
    (nonempty : batches ≠ []) :
    (transport opening exchange).exchangeAll batches (closed before) =
      ((exchange.exchangeAll batches inner).1,
        ⟨after, some (exchange.exchangeAll batches inner).2⟩) := by
  obtain ⟨batch, rest, rfl⟩ := List.exists_cons_of_ne_nil nonempty
  simp only [Transport.exchangeAll, transport, closed, opened]
  rw [exchangeAll_open]

/-- The exchanges before opening succeeds get its faults, and the others are those of a transport
that is open from there on. -/
theorem exchangeAll_late (fails : opening.Fails opener faults before)
    (opened : opening before = (.ok inner, after)) (enough : faults.length < batches.length) :
    (transport opening exchange).exchangeAll batches (closed opener) =
      (faults.map .error ++ (exchange.exchangeAll (batches.drop faults.length) inner).1,
        ⟨after, some (exchange.exchangeAll (batches.drop faults.length) inner).2⟩) := by
  have each : (batches.take faults.length).length = faults.length :=
    List.length_take_of_le enough.le
  have left : batches.drop faults.length ≠ [] := by
    rw [ne_eq, List.drop_eq_nil_iff]
    omega
  conv_lhs => rw [← List.take_append_drop faults.length batches]
  rw [exchangeAll_append, exchangeAll_failing fails each]
  simp only [exchangeAll_opening opened left]

/-- The exchanges over a transport that is opened late, with the calls of its opener counted and the
batches that reach the transport behind it kept. -/
def watch (opening : Opener ω ι) (exchange : Transport ι) (opener : ω) (batches : List Batch) :
    List (Except Fault (List Acknowledgement)) × Lazy (ω × Nat) (ι × List Batch) :=
  (transport opening.watched exchange.watched).exchangeAll batches (closed (opener, 0))

theorem watch_failing (fails : opening.Fails opener faults before)
    (each : batches.length = faults.length) :
    watch opening exchange opener batches =
      (faults.map .error, closed (before, batches.length)) := by
  rw [watch, exchangeAll_failing (fails.watched 0) each, Nat.zero_add, each]

theorem watch_late (fails : opening.Fails opener faults before)
    (opened : opening before = (.ok inner, after)) (enough : faults.length < batches.length) :
    watch opening exchange opener batches =
      (faults.map .error ++ (exchange.exchangeAll (batches.drop faults.length) inner).1,
        ⟨(after, faults.length + 1),
          some ((exchange.exchangeAll (batches.drop faults.length) inner).2,
            batches.drop faults.length)⟩) := by
  have counted : opening.watched (before, 0 + faults.length) =
      (.ok (inner, []), (after, faults.length + 1)) := by
    simp only [Opener.watched, opened, Nat.zero_add]
    rfl
  rw [watch, exchangeAll_late (fails.watched 0) counted enough, exchangeAll_watched]
  rfl

/-- An opener fails some times, and succeeds then if there are more exchanges than that. The
exchanges before get the faults of opening. All others, and the state behind the transport, are
those of a transport that was open when the first of them came. After each exchange the transport is
open exactly if opening has succeeded, the opener has been called once for each exchange up to then,
and the batches behind the failures have been sent, each once and in order. -/
theorem late_opening_refines_open (opening : Opener ω ι) (exchange : Transport ι) (opener : ω)
    (batches : List Batch) :
    ∃ faults before, opening.Fails opener faults before ∧
      ((faults.length = batches.length ∧
          (transport opening exchange).exchangeAll batches (closed opener) =
            (faults.map .error, closed before)) ∨
        (faults.length < batches.length ∧ ∃ inner after, opening before = (.ok inner, after) ∧
          (transport opening exchange).exchangeAll batches (closed opener) =
            (faults.map .error ++ (exchange.exchangeAll (batches.drop faults.length) inner).1,
              ⟨after, some (exchange.exchangeAll (batches.drop faults.length) inner).2⟩))) ∧
      ∀ count ≤ batches.length,
        let (outcomes, state) :=
          (transport opening exchange).exchangeAll (batches.take count) (closed opener)
        let (watchedOutcomes, watched) := watch opening exchange opener (batches.take count)
        state.isOpen = decide (faults.length < count) ∧
        watchedOutcomes = outcomes ∧
        watched.opener = (state.opener, min count (faults.length + 1)) ∧
        watched.inner = state.inner.map fun inner =>
          (inner, (batches.take count).drop faults.length) := by
  obtain ⟨faults, before, fails, ends⟩ := opening.exists_fails batches.length opener
  refine ⟨faults, before, fails, ?results, ?moments⟩
  case results =>
    rcases ends with each | ⟨enough, inner, after, opened⟩
    · exact .inl ⟨each, exchangeAll_failing fails each.symm⟩
    · exact .inr ⟨enough, inner, after, opened, exchangeAll_late fails opened enough⟩
  case moments =>
    intro count within
    have taken : (batches.take count).length = count := List.length_take_of_le within
    by_cases failing : count ≤ faults.length
    · obtain ⟨middle, front⟩ := fails.take count
      have each : (batches.take count).length = (faults.take count).length := by
        rw [taken, List.length_take_of_le failing]
      have unopened : ¬ faults.length < count := by omega
      have calls : min count (faults.length + 1) = count := by omega
      rw [exchangeAll_failing front each, watch_failing front each, taken, calls]
      simp [closed, isOpen, unopened]
    · have late : faults.length < (batches.take count).length := by omega
      have opens : faults.length < count := by omega
      have calls : min count (faults.length + 1) = faults.length + 1 := by omega
      rcases ends with each | ⟨-, inner, after, opened⟩
      · omega
      · rw [exchangeAll_late fails opened late, watch_late fails opened late, calls]
        simp [isOpen, opens]

/-- An opener that fails twice, and then yields a transport that fails on its first exchange. -/
def reluctantOpener : Opener Nat Bool := fun failures =>
  match failures with
  | 0 => (.ok false, 0)
  | failures + 1 => (.error (openingRefused ⟨1⟩), failures)

def reluctantExchange : Transport Bool := fun batch used =>
  (if used then .ok (batch.acknowledged.map fun sequence => ⟨sequence, 0⟩)
    else .error (openingRefused ⟨32⟩), true)

def fourBatches : List Batch :=
  [⟨[1], [2]⟩, ⟨[2], [2]⟩, ⟨[3], [2]⟩, ⟨[4], [2]⟩]

/-- The transport is not opened again after its first exchange has failed. -/
theorem late_opening_refines_open_reluctant :
    4 ≤ fourBatches.length ∧
      ∃ faults before, reluctantOpener.Fails 2 faults before ∧ faults.length = 2 ∧
        (watch reluctantOpener reluctantExchange 2 fourBatches).2.opener.2 = 3 ∧
        (watch reluctantOpener reluctantExchange 2 fourBatches).2.inner =
          some (true, [⟨[3], [2]⟩, ⟨[4], [2]⟩]) := by
  obtain ⟨faults, before, fails, -, moments⟩ :=
    late_opening_refines_open reluctantOpener reluctantExchange 2 fourBatches
  obtain ⟨-, -, calls, sent⟩ := moments 4 (by decide)
  have counted : 3 = min 4 (faults.length + 1) := congrArg Prod.snd calls
  have two : faults.length = 2 := by omega
  rw [two] at sent
  exact ⟨by decide, faults, before, fails, two, rfl, sent⟩

end Lazy

end OverlayNet.Masquerade
