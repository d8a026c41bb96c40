import Mathlib
import OverlayNet.Masquerade.Installation
import OverlayNet.Masquerade.Socket
import OverlayNet.Proofs.Masquerade.Tallying
import OverlayNet.Proofs.Procedure

set_option autoImplicit false

/-! # The verdict on an installation

However the kernel spreads its messages over buffers, the verdict on an installation depends only on
the messages that are received: on the first refusal among them, and on which messages of the batch
were granted before the kernel closed its answer. -/

namespace OverlayNet.Masquerade

open Netlink (Message)

namespace Tally

variable {port : UInt32} {tally : Tally}

/-- A tally that is finished by some of the buffers that arrive has taken exactly those, as if all
their messages had stood in one. -/
theorem exists_consumed_of_receiveAll {buffers : List Bytes} {answers : List Acknowledgement}
    (finished : tally.receiveAll port buffers = .ok (some answers)) :
    ∃ consumed groups, buffers = consumed ++ tally.unread port buffers ∧
      consumed.mapM Netlink.messages = .ok groups ∧
        (tally.collect port groups.flatten).2.answers = answers := by
  induction buffers generalizing tally with
  | nil => cases finished
  | cons buffer rest ih =>
      cases read : Netlink.messages buffer with
      | error fault => simp [receiveAll, receive, read, Except.map, bind, Except.bind] at finished
      | ok messages =>
          have received : tally.receive port buffer = .ok (tally.collect port messages) := by
            rw [receive, read]
            rfl
          rcases collected : tally.collect port messages with ⟨done, next⟩
          rw [collected] at received
          rw [receiveAll, received] at finished
          rw [unread, received]
          cases done with
          | true =>
              obtain rfl : next.answers = answers := by simpa [bind, Except.bind] using finished
              refine ⟨[buffer], [messages], rfl, ?_, ?_⟩
              · simp [read]
              · simp [collected]
          | false =>
              obtain ⟨consumed, groups, split, readRest, answered⟩ := ih finished
              refine ⟨buffer :: consumed, messages :: groups, ?_, ?_, ?_⟩
              · rw [List.cons_append, ← split]
              · rw [List.mapM_cons, read, readRest]
                rfl
              · rw [List.flatten_cons, collect_append collected, answered]

end Tally

/-- What an installation is refused with, given the messages that were received. -/
def rejection (port : UInt32) (expected : List UInt32) (messages : List Message) : Fault :=
  .rejected refusalContext
    (match firstRefusal? port messages with
    | some refusal =>
        "seq " ++ Decimal.text refusal.sequence.toNat ++ ": " ++
          (⟨-(refusal.errorCode?.getD 0)⟩ : Os.Errno).description
    | none =>
        Decimal.text (expected.filter fun sequence => Granted port messages sequence).length ++
          " of " ++ Decimal.text expected.length ++ " messages acknowledged")

section Verdict

variable {port : UInt32} {batch : Batch} {messages : List Message}

private theorem error_acknowledgement {message : Message} (refuses : Refuses port message) :
    (acknowledgement message).error ≠ 0 := by
  obtain ⟨-, code, read, nonzero⟩ := refuses
  rw [Option.mem_def] at read
  simpa [acknowledgement, read] using nonzero

private theorem find?_carriedOut (granted : List UInt32) :
    (granted.map carriedOut).find? (fun answer => answer.error ≠ 0) = none := by
  simp [carriedOut]

private theorem verdict_of_refusal {refusal : Message}
    (first : firstRefusal? port messages = some refusal) :
    verdict batch (Tally.collect port ⟨batch.acknowledged, []⟩ messages).2.answers =
      .error (rejection port batch.acknowledged messages) := by
  obtain ⟨granted, -, -, -, answers⟩ := (balanced_collect port batch.acknowledged messages).answers
  obtain ⟨refuses, -⟩ := split_at_firstRefusal first
  have found : [acknowledgement refusal].find? (fun answer => answer.error ≠ 0) =
      some (acknowledgement refusal) := by
    simp [error_acknowledgement refuses]
  rw [verdict, answers, first, Option.toList_some, List.map_singleton, List.find?_append,
    find?_carriedOut, Option.none_or, found, rejection, first]
  rfl

private theorem verdict_of_accepted (distinct : batch.acknowledged.Nodup)
    (accepted : firstRefusal? port messages = none) :
    verdict batch (Tally.collect port ⟨batch.acknowledged, []⟩ messages).2.answers =
      if ∀ sequence ∈ batch.acknowledged, Granted port messages sequence then .ok ()
      else .error (rejection port batch.acknowledged messages) := by
  have running := Tally.running_foldl_absorb port batch.acknowledged messages
  obtain ⟨granted, -, -, once, answers⟩ := running.answers
  have same : (granted.map Message.sequence).Perm
      (batch.acknowledged.filter fun sequence => Granted port messages sequence) := by
    rw [List.perm_ext_iff_of_nodup once (distinct.filter _)]
    intro sequence
    have counted := running.counted sequence
    rw [answers, sequences_carriedOut] at counted
    rw [counted, List.mem_filter, decide_eq_true_iff]
  rw [verdict, Tally.collect_accepted accepted, answers, find?_carriedOut, List.length_map,
    same.length_eq, rejection, accepted]
  dsimp only
  by_cases all : ∀ sequence ∈ batch.acknowledged, Granted port messages sequence
  · have whole : batch.acknowledged.filter (fun sequence => Granted port messages sequence) =
        batch.acknowledged := by
      simpa [List.filter_eq_self] using all
    rw [if_pos all, whole, if_neg (Nat.lt_irrefl _)]
  · have fewer : (batch.acknowledged.filter fun sequence => Granted port messages sequence).length <
        batch.acknowledged.length := by
      rw [List.length_filter_lt_length_iff_exists]
      simpa using all
    rw [if_neg all, if_pos fewer]

/-- The verdict on a batch that is refused nothing and granted everything is favourable, and every
other one is a rejection. -/
theorem verdict_collect (port : UInt32) (messages : List Message)
    (distinct : batch.acknowledged.Nodup) :
    verdict batch (Tally.collect port ⟨batch.acknowledged, []⟩ messages).2.answers =
      if (∀ message ∈ messages, ¬ Refuses port message) ∧
          ∀ sequence ∈ batch.acknowledged, Granted port messages sequence then .ok ()
      else .error (rejection port batch.acknowledged messages) := by
  cases first : firstRefusal? port messages with
  | some refusal =>
      have refused : ¬ ∀ message ∈ messages, ¬ Refuses port message := by
        rw [← firstRefusal?_eq_none_iff, first]
        exact Option.some_ne_none refusal
      rw [verdict_of_refusal first, if_neg fun both => refused both.1]
  | none =>
      have accepted := firstRefusal?_eq_none_iff.mp first
      rw [verdict_of_accepted distinct first]
      exact if_congr (and_iff_right accepted).symm rfl rfl

end Verdict

section Installation

variable {κ φ : Type}

/-- The batch that is sent to have traffic masqueraded. -/
def installation (uplink : String) (cluster : Cidr) : Batch :=
  batch ⟨tableName, chainName, uplink, cluster⟩ firstSequence

/-- An installation sends its batch once, and comes to the verdict on the answers. -/
theorem outcome_install (transport : Transport φ) (uplink : String) (cluster : Cidr)
    (host : Host κ φ) :
    ((install transport uplink cluster).outcome host).1 =
        (transport (installation uplink cluster) host.filter).1.bind
          (verdict (installation uplink cluster)) ∧
      ((install transport uplink cluster).outcome host).2.filter =
        (transport (installation uplink cluster) host.filter).2 := by
  rcases answered : transport (installation uplink cluster) host.filter with ⟨outcome, filter⟩
  have exchanged : (exchange transport (installation uplink cluster)).outcome host =
      (outcome, { host with filter }) := by
    have run : (exchange transport (installation uplink cluster)).outcome host =
        ((transport (installation uplink cluster) host.filter).1,
          { host with filter := (transport (installation uplink cluster) host.filter).2 }) := rfl
    rw [run, answered]
  cases outcome with
  | error fault =>
      have stopped : (install transport uplink cluster).outcome host =
          (.error fault, { host with filter }) :=
        Procedure.outcome_bind_error exchanged _
      rw [stopped]
      exact ⟨rfl, rfl⟩
  | ok answers =>
      have judged : (install transport uplink cluster).outcome host =
          Procedure.outcome (do
            Procedure.ofExcept (verdict (installation uplink cluster) answers)
            Procedure.inform ("Installed masquerade for " ++ cluster.text ++ " via " ++ uplink ++
              " in " ++ tableName ++ "/" ++ chainName)) { host with filter } :=
        Procedure.outcome_bind_ok exchanged _
      have passedOn : (Except.ok answers : Except Fault _).bind
          (verdict (installation uplink cluster)) =
          verdict (installation uplink cluster) answers := rfl
      rw [judged, passedOn]
      cases verdict (installation uplink cluster) answers with
      | error fault => exact ⟨rfl, rfl⟩
      | ok done => exact ⟨rfl, rfl⟩

private theorem transport_of_finished {socket : Socket} (sends : socket.sendError = none)
    (batch : Batch) {answers : List Acknowledgement}
    (finished : Tally.receiveAll socket.port ⟨batch.acknowledged, []⟩ socket.arriving =
      .ok (some answers)) :
    (Socket.transport batch socket).1 = .ok answers ∧
      (Socket.transport batch socket).2.arriving =
        Tally.unread socket.port ⟨batch.acknowledged, []⟩ socket.arriving := by
  rw [Socket.transport, sends]
  simp only [finished, and_self]

/-- Whatever the kernel answers with and however it spreads that over buffers, once the answers are
complete an installation succeeds exactly if none of the messages that were received refuses
anything, and each message of the batch that expects an answer is granted before the kernel closes
its answer. Otherwise it fails with the first refusal, or with the number of messages that were
granted. -/
theorem install_verdict (host : Host κ Socket) (uplink : String) (cluster : Cidr)
    (sends : host.filter.sendError = none) (answers : List Acknowledgement)
    (finished : Tally.receiveAll host.filter.port ⟨[2, 3, 4], []⟩ host.filter.arriving =
      .ok (some answers)) :
    ∃ result later consumed groups,
      (install Socket.transport uplink cluster).outcome host = (result, later) ∧
        host.filter.arriving = consumed ++ later.filter.arriving ∧
        consumed.mapM Netlink.messages = .ok groups ∧
        (result = .ok () ↔
          (∀ message ∈ groups.flatten, ¬ Refuses host.filter.port message) ∧
            ∀ sequence ∈ [2, 3, 4], Granted host.filter.port groups.flatten sequence) ∧
        (result ≠ .ok () →
          result = .error (rejection host.filter.port [2, 3, 4] groups.flatten)) := by
  have expected : (installation uplink cluster).acknowledged = [2, 3, 4] := rfl
  obtain ⟨consumed, groups, split, read, answered⟩ := Tally.exists_consumed_of_receiveAll finished
  obtain ⟨replied, unread⟩ := transport_of_finished sends (installation uplink cluster) finished
  obtain ⟨installed, filter⟩ := outcome_install Socket.transport uplink cluster host
  have distinct : (installation uplink cluster).acknowledged.Nodup := by
    rw [expected]
    decide
  have judged := verdict_collect host.filter.port groups.flatten distinct
  rw [expected, answered] at judged
  rw [replied, Except.bind, judged] at installed
  refine ⟨((install Socket.transport uplink cluster).outcome host).1,
    ((install Socket.transport uplink cluster).outcome host).2, consumed, groups, rfl, ?_, read, ?_,
    ?_⟩
  · rw [filter, unread]
    exact split
  · rw [installed]
    simp only [ite_eq_left_iff, reduceCtorEq, imp_false, not_not]
  · rw [installed]
    split
    · exact fun refused => absurd rfl refused
    · exact fun _ => rfl

/-- A message of the kernel that answers the message of a number with a code. -/
def answer (port sequence code : UInt32) : Bytes :=
  Bytes.littleEndian32 20 ++ Bytes.littleEndian16 Message.errorType ++ Bytes.littleEndian16 0 ++
    Bytes.littleEndian32 sequence ++ Bytes.littleEndian32 port ++ Bytes.littleEndian32 code

/-- A socket on which the messages of a batch are answered out of order and over two buffers, among
a refusal for another socket. -/
def answeredSocket : Socket where
  port := 77
  sendError := none
  arriving := [answer 77 2 0 ++ answer 5 3 0xffffffff, answer 77 4 0 ++ answer 0 3 0, answer 77 2 1]
  receiveError := ⟨11⟩
  sent := []

/-- The refusal for another socket is no refusal, and the one in the last buffer is not received. -/
theorem install_verdict_answeredSocket :
    ∃ (later : Host Unit Socket) (consumed : List Bytes) (groups : List (List Message)),
      (install Socket.transport "eth0" ⟨⟨0x0a200000⟩, 8, by decide⟩).outcome
          ⟨⟨[], []⟩, (), answeredSocket, []⟩ = (.ok (), later) ∧
        answeredSocket.arriving = consumed ++ later.filter.arriving ∧
        consumed.mapM Netlink.messages = .ok groups ∧
        (∀ message ∈ groups.flatten, ¬ Refuses 77 message) ∧
        ∀ sequence ∈ [2, 3, 4], Granted 77 groups.flatten sequence := by
  obtain ⟨result, later, consumed, groups, run, split, read, favourable, -⟩ :=
    install_verdict ⟨⟨[], []⟩, (), answeredSocket, []⟩ "eth0" ⟨⟨0x0a200000⟩, 8, by decide⟩ rfl
      [⟨2, 0⟩, ⟨4, 0⟩, ⟨3, 0⟩] (by decide +kernel)
  have installed : result = .ok () := by
    refine (congrArg Prod.fst run).symm.trans ?_
    decide +kernel
  obtain ⟨accepted, granted⟩ := favourable.mp installed
  exact ⟨later, consumed, groups, installed ▸ run, split, read, accepted, granted⟩

end Installation

end OverlayNet.Masquerade
