import Mathlib
import OverlayNet.Masquerade.Acknowledgement

set_option autoImplicit false

/-! # Laws of tallying

A tally goes on over buffers as if their messages had come in one, and takes no notice of messages
that are for others or answer nothing. At every moment its books balance: what is pending and what
has been carried out are apart, and together they are what was expected. -/

namespace OverlayNet.Masquerade

open Netlink (Message)

/-- Whether a message is for the socket of a port or for every socket. -/
def Concerns (port : UInt32) (message : Message) : Prop :=
  message.port = 0 ∨ message.port = port
deriving Decidable

/-- Whether a message tells that something was refused. -/
def Refuses (port : UInt32) (message : Message) : Prop :=
  Concerns port message ∧ ∃ code ∈ message.errorCode?, code ≠ 0
deriving Decidable

/-- Whether a message tells that no more answers follow. -/
def Closes (port : UInt32) (message : Message) : Prop :=
  Concerns port message ∧ message.type = Message.doneType
deriving Decidable

/-- Whether a message tells that the message of a number was carried out. -/
def Grants (port sequence : UInt32) (message : Message) : Prop :=
  Concerns port message ∧ message.sequence = sequence ∧ message.errorCode? = some 0
deriving Decidable

/-- Whether a number is granted before the kernel closes its answer. -/
def Granted (port : UInt32) (messages : List Message) (sequence : UInt32) : Prop :=
  ∃ message ∈ messages.takeWhile fun message => ¬ Closes port message, Grants port sequence message
deriving Decidable

def firstRefusal? (port : UInt32) (messages : List Message) : Option Message :=
  messages.find? fun message => Refuses port message

/-- The acknowledgement that a message carries. -/
def acknowledgement (message : Message) : Acknowledgement :=
  ⟨message.sequence, message.errorCode?.getD 0⟩

/-- The acknowledgement of a message that was carried out. -/
def carriedOut (sequence : UInt32) : Acknowledgement :=
  ⟨sequence, 0⟩

/-- Whether a message tells a tally nothing: it is for another socket, or it neither closes the
answer of the kernel nor is long enough to carry a code. -/
def Noise (port : UInt32) (message : Message) : Prop :=
  ¬ Concerns port message ∨ message.type ≠ Message.doneType ∧
    ¬ (message.type = Message.errorType ∧ 4 ≤ message.payload.length)

/-- Whether messages are others with some of the noise among them left out. -/
inductive Thinned (port : UInt32) : List Message → List Message → Prop where
  | nil : Thinned port [] []
  | keep {messages kept : List Message} (message : Message) (rest : Thinned port messages kept) :
      Thinned port (message :: messages) (message :: kept)
  | drop {message : Message} {messages kept : List Message} (noise : Noise port message)
      (rest : Thinned port messages kept) : Thinned port (message :: messages) kept

/-- Whether a tally, finished or not, comes of tallying the messages of buffers one after the other,
none of which but the last has finished it. -/
inductive Tallies (port : UInt32) (start : Tally) : List (List Message) → Bool → Tally → Prop where
  | first (messages : List Message) :
      Tallies port start [messages] (start.collect port messages).1
        (start.collect port messages).2
  | next {buffers : List (List Message)} {tally : Tally}
      (unfinished : Tallies port start buffers false tally) (messages : List Message) :
      Tallies port start (buffers ++ [messages]) (tally.collect port messages).1
        (tally.collect port messages).2

/-- What the books show when messages have been tallied for expected numbers. -/
structure Balanced (port : UInt32) (expected : List UInt32) (messages : List Message)
    (finished : Bool) (tally : Tally) : Prop where
  /-- Different expected numbers were carried out, in the order in which that was told, and then the
  first refusal came, if one did. -/
  answers : ∃ granted : List Message,
    (granted ++ (firstRefusal? port messages).toList).Sublist messages ∧
      (∀ message ∈ granted, Grants port message.sequence message ∧ message.sequence ∈ expected) ∧
      (granted.map Message.sequence).Nodup ∧
      tally.answers = (granted.map Message.sequence).map carriedOut ++
        (firstRefusal? port messages).toList.map acknowledgement
  apart : ∀ answer ∈ tally.answers, answer.sequence ∉ tally.pending
  together : (∀ message ∈ messages, ¬ Closes port message ∧ ¬ Refuses port message) →
    ∀ sequence, sequence ∈ expected ↔
      sequence ∈ tally.pending ∨ sequence ∈ tally.answers.map Acknowledgement.sequence
  finished : finished = true ↔
    (∃ message ∈ messages, Refuses port message) ∨ tally.pending = []

section Messages

variable {port sequence : UInt32} {message : Message} {messages : List Message}

@[simp]
theorem sequences_carriedOut (sequences : List UInt32) :
    (sequences.map carriedOut).map Acknowledgement.sequence = sequences := by
  rw [List.map_map]
  exact List.map_id sequences

private theorem errorCode?_of_closes (closes : Closes port message) :
    message.errorCode? = none := by
  have other : message.type ≠ Message.errorType := by
    rw [closes.2]
    decide
  rw [Message.errorCode?, if_neg other]

theorem not_closes_of_grants (grants : Grants port sequence message) : ¬ Closes port message := by
  intro closes
  have read := grants.2.2
  rw [errorCode?_of_closes closes] at read
  cases read

private theorem not_granted_cons_of_closes (closes : Closes port message) :
    ¬ Granted port (message :: messages) sequence := by
  simp [Granted, closes]

private theorem granted_cons_iff (goesOn : ¬ Closes port message) :
    Granted port (message :: messages) sequence ↔
      Grants port sequence message ∨ Granted port messages sequence := by
  simp [Granted, goesOn]

/-- A number is granted up to a message if it was granted before, or the message grants it and
nothing has closed the answer before. -/
theorem granted_concat_iff :
    Granted port (messages ++ [message]) sequence ↔ Granted port messages sequence ∨
      (∀ other ∈ messages, ¬ Closes port other) ∧ Grants port sequence message := by
  induction messages with
  | nil =>
      by_cases closes : Closes port message
      · have grantsNothing : ¬ Grants port sequence message :=
          fun grants => not_closes_of_grants grants closes
        rw [List.nil_append, iff_false_left (not_granted_cons_of_closes closes)]
        simp [Granted, grantsNothing]
      · rw [List.nil_append, granted_cons_iff closes]
        simp [Granted]
  | cons first rest ih =>
      rw [List.cons_append]
      by_cases closes : Closes port first
      · simp [not_granted_cons_of_closes closes, closes]
      · rw [granted_cons_iff closes, granted_cons_iff closes, ih, List.forall_mem_cons]
        tauto

theorem firstRefusal?_eq_none_iff :
    firstRefusal? port messages = none ↔ ∀ message ∈ messages, ¬ Refuses port message := by
  simp [firstRefusal?]

theorem split_at_firstRefusal {refusal : Message}
    (first : firstRefusal? port messages = some refusal) :
    Refuses port refusal ∧ ∃ before after, messages = before ++ refusal :: after ∧
      ∀ message ∈ before, ¬ Refuses port message := by
  obtain ⟨refuses, before, after, split, accepted⟩ := List.find?_eq_some_iff_append.mp first
  exact ⟨by simpa using refuses, before, after, split, by simpa using accepted⟩

private theorem exists_firstRefusal (refused : ∃ message ∈ messages, Refuses port message) :
    ∃ refusal, firstRefusal? port messages = some refusal := by
  rw [← Option.ne_none_iff_exists', ne_eq, firstRefusal?_eq_none_iff]
  simpa using refused

theorem errorCode?_eq_none_iff :
    message.errorCode? = none ↔
      ¬ (message.type = Message.errorType ∧ 4 ≤ message.payload.length) := by
  rw [Message.errorCode?]
  by_cases answers : message.type = Message.errorType
  · rw [if_pos answers]
    split
    case h_1 first second third fourth rest payload => simp [answers, payload]
    case h_2 shorter =>
      have few : message.payload.length < 4 := by
        rcases payload : message.payload with
          _ | ⟨first, _ | ⟨second, _ | ⟨third, _ | ⟨fourth, rest⟩⟩⟩⟩
        case cons.cons.cons.cons => exact absurd payload (shorter first second third fourth rest)
        all_goals simp
      simp [few]
  · simp [answers]

end Messages

namespace Tally

variable {port : UInt32} {tally : Tally} {message : Message} {messages : List Message}

/-- A message that tells nothing is passed over. -/
theorem collect_of_idle (goesOn : ¬ Closes port message) (accepts : ¬ Refuses port message)
    (grantsNothing : ¬ Grants port message.sequence message) :
    tally.collect port (message :: messages) = tally.collect port messages := by
  rw [collect]
  split
  case isTrue => rfl
  case isFalse kept =>
    have concerns : Concerns port message := by
      rw [Concerns]
      tauto
    rw [if_neg fun done => goesOn ⟨concerns, done⟩]
    cases read : message.errorCode? with
    | none => rfl
    | some code =>
        by_cases zero : code = 0
        · exact absurd ⟨concerns, rfl, zero ▸ read⟩ grantsNothing
        · exact absurd ⟨concerns, code, read, zero⟩ accepts

theorem collect_of_closes (closes : Closes port message) :
    tally.collect port (message :: messages) =
      collect port { tally with pending := [] } messages := by
  obtain ⟨concerns, done⟩ := closes
  rw [Concerns] at concerns
  rw [collect, if_neg (by tauto), if_pos done]

theorem collect_of_refuses (refuses : Refuses port message) :
    tally.collect port (message :: messages) =
      (true, (tally.settle message.sequence).count (acknowledgement message)) := by
  obtain ⟨concerns, code, read, nonzero⟩ := refuses
  have goesOn : message.type ≠ Message.doneType := by
    intro done
    rw [errorCode?_of_closes ⟨concerns, done⟩] at read
    cases read
  rw [Concerns] at concerns
  rw [Option.mem_def] at read
  rw [collect, if_neg (by tauto), if_neg goesOn, read]
  simp [nonzero, acknowledgement, read]

/-- The tally in which one more number is carried out, if that was expected. -/
def grant (tally : Tally) (sequence : UInt32) : Tally :=
  if sequence ∈ tally.pending then (tally.settle sequence).count ⟨sequence, 0⟩ else tally

private theorem settle_of_not_mem {sequence : UInt32} (unexpected : sequence ∉ tally.pending) :
    tally.settle sequence = tally := by
  have same : tally.pending.filter (· ≠ sequence) = tally.pending := by
    rw [List.filter_eq_self]
    intro other pending
    have different : other ≠ sequence := fun equal => unexpected (equal ▸ pending)
    simpa using different
  rw [settle, same]

theorem collect_of_grants (grants : Grants port message.sequence message) :
    tally.collect port (message :: messages) =
      (tally.grant message.sequence).collect port messages := by
  have goesOn : message.type ≠ Message.doneType :=
    fun done => not_closes_of_grants grants ⟨grants.1, done⟩
  obtain ⟨concerns, -, read⟩ := grants
  rw [Concerns] at concerns
  rw [collect, if_neg (by tauto), if_neg goesOn, read]
  by_cases expected : message.sequence ∈ tally.pending
  · simp [grant, expected]
  · simp [grant, expected, settle_of_not_mem expected]

theorem collect_of_noise (noise : Noise port message) :
    tally.collect port (message :: messages) = tally.collect port messages := by
  have codeless : Concerns port message → message.errorCode? = none := by
    intro concerns
    rcases noise with other | ⟨-, idle⟩
    · exact absurd concerns other
    · exact errorCode?_eq_none_iff.mpr idle
  apply collect_of_idle
  · rintro ⟨concerns, done⟩
    rcases noise with other | ⟨goesOn, -⟩
    · exact other concerns
    · exact goesOn done
  · rintro ⟨concerns, code, read, -⟩
    rw [codeless concerns] at read
    cases read
  · rintro ⟨concerns, -, read⟩
    rw [codeless concerns] at read
    cases read

/-- The tally behind a message that refuses nothing. -/
def absorb (port : UInt32) (tally : Tally) (message : Message) : Tally :=
  if Closes port message then { tally with pending := [] }
  else if Grants port message.sequence message then tally.grant message.sequence
  else tally

theorem collect_of_accepted (accepts : ¬ Refuses port message) :
    tally.collect port (message :: messages) =
      (tally.absorb port message).collect port messages := by
  rw [absorb]
  split
  case isTrue closes => exact collect_of_closes closes
  case isFalse goesOn =>
    split
    case isTrue grants => exact collect_of_grants grants
    case isFalse grantsNothing => exact collect_of_idle goesOn accepts grantsNothing

/-- Messages behind a buffer that leaves a tally unfinished are tallied as if they stood in it. -/
theorem collect_append {next : Tally} {first : List Message}
    (unfinished : tally.collect port first = (false, next)) (second : List Message) :
    tally.collect port (first ++ second) = next.collect port second := by
  induction first generalizing tally with
  | nil =>
      obtain ⟨-, rfl⟩ := Prod.mk.inj unfinished
      rfl
  | cons message messages ih =>
      rw [List.cons_append]
      by_cases refuses : Refuses port message
      · rw [collect_of_refuses refuses] at unfinished
        cases unfinished
      · rw [collect_of_accepted refuses] at unfinished ⊢
        exact ih unfinished

/-- As long as nothing is refused, a tally is the fold of its messages. -/
theorem collect_accepted_append (accepted : ∀ message ∈ messages, ¬ Refuses port message)
    (rest : List Message) :
    tally.collect port (messages ++ rest) =
      (messages.foldl (absorb port) tally).collect port rest := by
  induction messages generalizing tally with
  | nil => rfl
  | cons message messages ih =>
      rw [List.cons_append, collect_of_accepted (accepted message List.mem_cons_self),
        ih fun other member => accepted other (List.mem_cons_of_mem _ member), List.foldl_cons]

/-- Nothing counts behind a refusal. -/
theorem collect_refused {refusal : Message}
    (accepted : ∀ message ∈ messages, ¬ Refuses port message) (refuses : Refuses port refusal) (after : List Message) :
    tally.collect port (messages ++ refusal :: after) =
      (true, ((messages.foldl (absorb port) tally).settle refusal.sequence).count
        (acknowledgement refusal)) := by
  rw [collect_accepted_append accepted, collect_of_refuses refuses]

end Tally

private theorem Thinned.collect_eq {port : UInt32} {messages kept : List Message}
    (thinned : Thinned port messages kept) (tally : Tally) :
    tally.collect port kept = tally.collect port messages := by
  induction thinned generalizing tally with
  | nil => rfl
  | @keep messages kept message rest ih =>
      by_cases refuses : Refuses port message
      · rw [Tally.collect_of_refuses refuses, Tally.collect_of_refuses refuses]
      · rw [Tally.collect_of_accepted refuses, Tally.collect_of_accepted refuses, ih]
  | drop noise rest ih => rw [ih, Tally.collect_of_noise noise]

private theorem Tallies.collect_flatten {port : UInt32} {start tally : Tally}
    {buffers : List (List Message)} {finished : Bool}
    (tallied : Tallies port start buffers finished tally) :
    start.collect port buffers.flatten = (finished, tally) := by
  induction tallied with
  | first messages => simp
  | next unfinished messages ih =>
      rw [List.flatten_append, List.flatten_singleton, Tally.collect_append ih]

/-- The books while nothing has been refused: numbers are carried out in the order in which that was
told, each once, those that were granted count, and the others are pending until the answer is
closed. -/
structure Running (port : UInt32) (expected : List UInt32) (seen : List Message)
    (tally : Tally) : Prop where
  answers : ∃ granted : List Message, granted.Sublist seen ∧
    (∀ message ∈ granted, Grants port message.sequence message ∧ message.sequence ∈ expected) ∧
    (granted.map Message.sequence).Nodup ∧
    tally.answers = (granted.map Message.sequence).map carriedOut
  counted : ∀ sequence, sequence ∈ tally.answers.map Acknowledgement.sequence ↔
    sequence ∈ expected ∧ Granted port seen sequence
  pending : ∀ sequence, sequence ∈ tally.pending ↔ sequence ∈ expected ∧
    (∀ message ∈ seen, ¬ Closes port message) ∧ ¬ Granted port seen sequence

private theorem running_start (port : UInt32) (expected : List UInt32) :
    Running port expected [] ⟨expected, []⟩ where
  answers := ⟨[], by simp⟩
  counted := by simp [Granted]
  pending := by simp [Granted]

namespace Running

variable {port : UInt32} {expected : List UInt32} {seen : List Message} {tally : Tally}
  {message : Message}

/-- A message that grants at most what was granted before leaves the books as they are. -/
theorem idle (running : Running port expected seen tally) (goesOn : ¬ Closes port message)
    (nothingNew : ∀ sequence ∈ expected, (∀ other ∈ seen, ¬ Closes port other) →
      Grants port sequence message → Granted port seen sequence) :
    Running port expected (seen ++ [message]) tally := by
  obtain ⟨granted, inOrder, grants, distinct, answers⟩ := running.answers
  have same : ∀ sequence ∈ expected,
      (Granted port (seen ++ [message]) sequence ↔ Granted port seen sequence) := by
    intro sequence wanted
    rw [granted_concat_iff, or_iff_left_iff_imp]
    exact fun told => nothingNew sequence wanted told.1 told.2
  constructor
  case answers =>
    exact ⟨granted, inOrder.trans (List.sublist_append_left _ _), grants, distinct, answers⟩
  case counted =>
    intro sequence
    rw [running.counted]
    exact and_congr_right fun wanted => (same sequence wanted).symm
  case pending =>
    intro sequence
    rw [running.pending]
    apply and_congr_right
    intro wanted
    rw [same sequence wanted]
    simp [or_imp, forall_and, goesOn]

private theorem close (running : Running port expected seen tally) (closes : Closes port message) :
    Running port expected (seen ++ [message]) { tally with pending := [] } := by
  obtain ⟨granted, inOrder, grants, distinct, answers⟩ := running.answers
  constructor
  case answers =>
    exact ⟨granted, inOrder.trans (List.sublist_append_left _ _), grants, distinct, answers⟩
  case counted =>
    intro sequence
    have grantsNothing : ¬ Grants port sequence message :=
      fun grants => not_closes_of_grants grants closes
    rw [running.counted, granted_concat_iff, or_iff_left fun told => grantsNothing told.2]
  case pending =>
    intro sequence
    apply iff_of_false List.not_mem_nil
    rintro ⟨-, unclosed, -⟩
    exact unclosed message (by simp) closes

/-- A number that is pending is carried out for the first time. -/
theorem carryOut (running : Running port expected seen tally)
    (grants : Grants port message.sequence message)
    (awaited : message.sequence ∈ tally.pending) :
    Running port expected (seen ++ [message])
      ((tally.settle message.sequence).count ⟨message.sequence, 0⟩) := by
  obtain ⟨granted, inOrder, allGrant, distinct, answers⟩ := running.answers
  obtain ⟨wanted, unclosed, ungranted⟩ := (running.pending _).mp awaited
  have told : ∀ sequence, Granted port (seen ++ [message]) sequence ↔
      Granted port seen sequence ∨ sequence = message.sequence := by
    intro sequence
    rw [granted_concat_iff]
    apply or_congr_right
    constructor
    · exact fun both => both.2.2.1.symm
    · rintro rfl
      exact ⟨unclosed, grants⟩
  constructor
  case answers =>
    refine ⟨granted ++ [message], inOrder.append (List.Sublist.refl _), ?_, ?_, ?_⟩
    · intro other member
      rcases List.mem_append.mp member with earlier | last
      · exact allGrant other earlier
      · rw [List.mem_singleton.mp last]
        exact ⟨grants, wanted⟩
    · have fresh : message.sequence ∉ granted.map Message.sequence := by
        have uncounted := fun member => ungranted ((running.counted _).mp member).2
        rwa [answers, sequences_carriedOut] at uncounted
      rw [List.map_append, List.map_singleton, ← List.concat_eq_append, List.nodup_concat]
      exact ⟨fresh, distinct⟩
    · simp [Tally.count, Tally.settle, answers, carriedOut]
  case counted =>
    intro sequence
    have earlier := running.counted sequence
    simp only [Tally.count, Tally.settle, List.map_append, List.map_singleton, List.mem_append,
      List.mem_singleton, earlier, told]
    constructor
    · rintro (⟨expected, granted⟩ | rfl)
      · exact ⟨expected, .inl granted⟩
      · exact ⟨wanted, .inr rfl⟩
    · tauto
  case pending =>
    intro sequence
    have goesOn := not_closes_of_grants grants
    have earlier := running.pending sequence
    simp only [Tally.count, Tally.settle, List.mem_filter, earlier, told, decide_eq_true_eq,
      List.forall_mem_append, List.forall_mem_singleton]
    tauto

/-- What one message that refuses nothing does to the books. -/
theorem absorb (running : Running port expected seen tally) (message : Message) :
    Running port expected (seen ++ [message]) (tally.absorb port message) := by
  rw [Tally.absorb]
  split
  case isTrue closes => exact running.close closes
  case isFalse goesOn =>
    split
    case isTrue grants =>
      rw [Tally.grant]
      split
      case isTrue awaited => exact running.carryOut grants awaited
      case isFalse unawaited =>
        apply running.idle goesOn
        rintro sequence wanted unclosed ⟨-, rfl, -⟩
        by_contra ungranted
        exact unawaited ((running.pending _).mpr ⟨wanted, unclosed, ungranted⟩)
    case isFalse grantsNothing =>
      apply running.idle goesOn
      rintro sequence - - ⟨concerns, rfl, read⟩
      exact absurd ⟨concerns, rfl, read⟩ grantsNothing

private theorem foldl_absorb (running : Running port expected seen tally)
    (messages : List Message) :
    Running port expected (seen ++ messages) (messages.foldl (Tally.absorb port) tally) := by
  induction messages generalizing seen tally with
  | nil => rwa [List.append_nil]
  | cons message messages ih =>
      have behind := ih (running.absorb message)
      rwa [List.append_assoc, List.singleton_append] at behind

private theorem apart (running : Running port expected seen tally) {answer : Acknowledgement}
    (member : answer ∈ tally.answers) : answer.sequence ∉ tally.pending := by
  intro awaited
  have granted := ((running.counted _).mp (List.mem_map_of_mem member)).2
  exact ((running.pending _).mp awaited).2.2 granted

end Running

theorem Tally.running_foldl_absorb (port : UInt32) (expected : List UInt32)
    (messages : List Message) :
    Running port expected messages (messages.foldl (Tally.absorb port) ⟨expected, []⟩) :=
  (running_start port expected).foldl_absorb messages

section Balance

variable {port : UInt32} {expected : List UInt32} {messages : List Message}

theorem Tally.collect_accepted (accepted : firstRefusal? port messages = none) (tally : Tally) :
    tally.collect port messages =
      ((messages.foldl (Tally.absorb port) tally).pending.isEmpty,
        messages.foldl (Tally.absorb port) tally) := by
  have collected : tally.collect port (messages ++ []) =
      (messages.foldl (Tally.absorb port) tally).collect port [] :=
    Tally.collect_accepted_append (firstRefusal?_eq_none_iff.mp accepted) []
  rwa [List.append_nil, Tally.collect] at collected

private theorem balanced_of_accepted (accepted : firstRefusal? port messages = none) :
    Balanced port expected messages (Tally.collect port ⟨expected, []⟩ messages).1
      (Tally.collect port ⟨expected, []⟩ messages).2 := by
  have running := Tally.running_foldl_absorb port expected messages
  rw [Tally.collect_accepted accepted]
  constructor
  case answers => simpa [accepted] using running.answers
  case apart => exact fun answer member => running.apart member
  case together =>
    intro unclosed sequence
    rw [running.counted, running.pending]
    have goesOn : ∀ message ∈ messages, ¬ Closes port message :=
      fun message member => (unclosed message member).1
    tauto
  case finished =>
    have unrefused : ¬ ∃ message ∈ messages, Refuses port message := by
      simpa using firstRefusal?_eq_none_iff.mp accepted
    rw [or_iff_right unrefused, List.isEmpty_iff]

private theorem balanced_of_refused {refusal : Message}
    (first : firstRefusal? port messages = some refusal) :
    Balanced port expected messages (Tally.collect port ⟨expected, []⟩ messages).1
      (Tally.collect port ⟨expected, []⟩ messages).2 := by
  obtain ⟨refuses, before, after, split, accepted⟩ := split_at_firstRefusal first
  have refusalInside : refusal ∈ messages := by simp [split]
  have running := Tally.running_foldl_absorb port expected before
  obtain ⟨granted, inOrder, grants, distinct, answers⟩ := running.answers
  rw [split, Tally.collect_refused accepted refuses, ← split]
  constructor
  case answers =>
    refine ⟨granted, ?_, grants, distinct, ?_⟩
    · rw [first, split]
      exact inOrder.append (by simp)
    · rw [first]
      simp [Tally.count, Tally.settle, answers]
  case apart =>
    intro answer member pending
    have kept : answer.sequence ∈ (before.foldl (Tally.absorb port) ⟨expected, []⟩).pending ∧
        answer.sequence ≠ refusal.sequence := by
      simpa [Tally.count, Tally.settle] using pending
    rcases List.mem_append.mp member with earlier | last
    · exact running.apart earlier kept.1
    · exact kept.2 (congrArg Acknowledgement.sequence (List.mem_singleton.mp last))
  case together => exact fun accepted => absurd refuses (accepted refusal refusalInside).2
  case finished => exact iff_of_true rfl (.inl ⟨refusal, refusalInside, refuses⟩)

theorem balanced_collect (port : UInt32) (expected : List UInt32) (messages : List Message) :
    Balanced port expected messages (Tally.collect port ⟨expected, []⟩ messages).1
      (Tally.collect port ⟨expected, []⟩ messages).2 := by
  cases first : firstRefusal? port messages with
  | none => exact balanced_of_accepted first
  | some refusal => exact balanced_of_refused first

end Balance

/-- A tally that is not finished by some messages goes on with the next ones as if all had come at
once, and one that was refused takes no notice of them. Noise changes nothing, wherever it is left
out. However the messages are spread over buffers, the books balance at the end of every buffer up
to the one that finishes the tally. -/
theorem tally_balances_over_buffers (port : UInt32) (tally : Tally) :
    (∀ first second next, tally.collect port first = (false, next) →
      tally.collect port (first ++ second) = next.collect port second) ∧
    (∀ first second, (∃ message ∈ first, Refuses port message) →
      (tally.collect port first).1 = true ∧
        tally.collect port (first ++ second) = tally.collect port first) ∧
    (∀ messages kept, Thinned port messages kept →
      tally.collect port kept = tally.collect port messages) ∧
    ∀ expected buffers finished later, Tallies port ⟨expected, []⟩ buffers finished later →
      Balanced port expected buffers.flatten finished later := by
  refine ⟨fun first second next unfinished => Tally.collect_append unfinished second, ?refused,
    fun messages kept thinned => thinned.collect_eq tally, ?books⟩
  case refused =>
    intro first second refused
    obtain ⟨refusal, found⟩ := exists_firstRefusal refused
    obtain ⟨refuses, before, after, rfl, accepted⟩ := split_at_firstRefusal found
    rw [List.append_assoc, List.cons_append, Tally.collect_refused accepted refuses,
      Tally.collect_refused accepted refuses]
    exact ⟨rfl, rfl⟩
  case books =>
    intro expected buffers finished later tallied
    have balanced := balanced_collect port expected buffers.flatten
    rwa [tallied.collect_flatten] at balanced

/-- A message that answers the message of a number with a code. -/
def reply (port sequence code : UInt32) : Message :=
  ⟨Message.errorType, 0, sequence, port, Bytes.littleEndian32 code⟩

/-- Replies in three buffers: a refusal for another socket, a number that is told twice, and a
refusal with a late answer behind it. -/
def scatteredReplies : List (List Message) :=
  [[reply 99 2 0xffffffff, reply 0 3 0], [],
    [reply 7 3 0, reply 7 2 0, reply 7 4 0xffffffff, reply 7 4 0]]

theorem tally_balances_over_buffers_scattered :
    Tallies 7 ⟨[2, 3, 4], []⟩ scatteredReplies true ⟨[], [⟨3, 0⟩, ⟨2, 0⟩, ⟨4, -1⟩]⟩ ∧
      Balanced 7 [2, 3, 4] scatteredReplies.flatten true ⟨[], [⟨3, 0⟩, ⟨2, 0⟩, ⟨4, -1⟩]⟩ ∧
      Thinned 7 scatteredReplies.flatten scatteredReplies.flatten.tail ∧
      Tally.collect 7 ⟨[2, 3, 4], []⟩ scatteredReplies.flatten.tail =
        Tally.collect 7 ⟨[2, 3, 4], []⟩ scatteredReplies.flatten := by
  have one : Tallies 7 ⟨[2, 3, 4], []⟩ (scatteredReplies.take 1) false ⟨[2, 4], [⟨3, 0⟩]⟩ :=
    .first _
  have two : Tallies 7 ⟨[2, 3, 4], []⟩ (scatteredReplies.take 2) false ⟨[2, 4], [⟨3, 0⟩]⟩ :=
    one.next []
  have tallied : Tallies 7 ⟨[2, 3, 4], []⟩ scatteredReplies true
      ⟨[], [⟨3, 0⟩, ⟨2, 0⟩, ⟨4, -1⟩]⟩ :=
    two.next [reply 7 3 0, reply 7 2 0, reply 7 4 0xffffffff, reply 7 4 0]
  have foreign : Noise 7 (reply 99 2 0xffffffff) := .inl (by decide)
  have thinned : Thinned 7 scatteredReplies.flatten scatteredReplies.flatten.tail :=
    .drop foreign (.keep _ (.keep _ (.keep _ (.keep _ (.keep _ .nil)))))
  obtain ⟨-, -, noise, books⟩ := tally_balances_over_buffers 7 ⟨[2, 3, 4], []⟩
  exact ⟨tallied, books _ _ _ _ tallied, thinned, noise _ _ thinned⟩

end OverlayNet.Masquerade
