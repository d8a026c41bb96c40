import Mathlib
import OverlayNet.Proofs.Netlink.AttributeTrees

set_option autoImplicit false

/-! # The framing of messages

A buffer is read as a list of messages exactly if it is made of them: of their headers, payloads and
padding, with fewer bytes behind the last one than a header takes. Any other buffer has a first
header whose length is impossible, and the fault names that length and where the header stands. -/

namespace OverlayNet.Netlink

namespace Message

/-- The number of bytes of a header and its payload. -/
def length (message : Message) : Nat :=
  16 + message.payload.length

def header (message : Message) : Bytes :=
  Bytes.littleEndian32 (UInt32.ofNat message.length) ++ Bytes.littleEndian16 message.type ++
    Bytes.littleEndian16 message.flags ++ Bytes.littleEndian32 message.sequence ++
    Bytes.littleEndian32 message.port

/-- The bytes of a message, padded with zeros. -/
def bytes (message : Message) : Bytes :=
  message.header ++ message.payload ++ padding message.length

theorem toNat_length {message : Message} (fits : message.length < 2 ^ 32) :
    (UInt32.ofNat message.length).toNat = message.length := by
  rw [UInt32.toNat_ofNat']
  exact Nat.mod_eq_of_lt fits

end Message

/-- Whether bytes are messages one behind the other, each padded to a multiple of four. -/
inductive Chained : List Message → Bytes → Prop where
  | nil : Chained [] []
  | cons {message : Message} {messages : List Message} {padding rest : Bytes}
      (fits : message.length < 2 ^ 32)
      (padded : padding.length = align message.length - message.length)
      (chained : Chained messages rest) :
      Chained (message :: messages) (message.header ++ message.payload ++ (padding ++ rest))

/-- Whether a buffer is made of messages: fewer bytes than a header takes stand behind them, or the
buffer ends within the padding of the last one. -/
inductive Framed : List Message → Bytes → Prop where
  | whole {messages : List Message} {chain rest : Bytes} (chained : Chained messages chain)
      (short : rest.length < 16) : Framed messages (chain ++ rest)
  | cut {messages : List Message} {last : Message} {chain padding : Bytes}
      (chained : Chained messages chain) (fits : last.length < 2 ^ 32)
      (short : padding.length < align last.length - last.length) :
      Framed (messages ++ [last]) (chain ++ (last.header ++ last.payload ++ padding))

/-- Whether behind messages that are complete, at an offset, stands a header with a length that is
less than its own or runs past the end of the buffer. -/
inductive Breaks : Bytes → Nat → Nat → Prop where
  | behind {messages : List Message} {chain fields rest : Bytes} {length : UInt32}
      (chained : Chained messages chain) (complete : fields.length = 12)
      (impossible : length.toNat < 16 ∨ 16 + rest.length < length.toNat) :
      Breaks (chain ++ (Bytes.littleEndian32 length ++ fields ++ rest)) length.toNat chain.length

theorem Chained.sum_length_le {messages : List Message} {chain : Bytes}
    (chained : Chained messages chain) : (messages.map Message.length).sum ≤ chain.length := by
  induction chained with
  | nil => exact Nat.le_refl 0
  | @cons message messages padding rest fits padded chained ih =>
      have header : message.header.length = 16 := rfl
      simp only [List.map_cons, List.sum_cons, List.length_append, header, Message.length]
      omega

theorem Framed.sum_length_le {messages : List Message} {bytes : Bytes}
    (framed : Framed messages bytes) : (messages.map Message.length).sum ≤ bytes.length := by
  cases framed with
  | whole chained short =>
      have inside := chained.sum_length_le
      rw [List.length_append]
      omega
  | @cut messages last chain padding chained fits short =>
      have inside := chained.sum_length_le
      have header : last.header.length = 16 := rfl
      simp only [List.map_append, List.map_cons, List.map_nil, List.sum_append, List.sum_cons,
        List.sum_nil, List.length_append, header, Message.length]
      omega

private theorem Breaks.place_le {bytes : Bytes} {length place : Nat}
    (breaks : Breaks bytes length place) :
    place + 16 ≤ bytes.length := by
  cases breaks with
  | @behind messages chain fields rest length chained complete impossible =>
      have four : (Bytes.littleEndian32 length).length = 4 := rfl
      simp only [List.length_append, complete, four]
      omega

section Reading

variable {message : Message} {messages : List Message} {bytes : Bytes}

theorem messagesFrom_of_short (short : bytes.length < 16) (offset : Nat) :
    messagesFrom offset bytes = .ok [] := by
  unfold messagesFrom
  split
  case h_1 =>
    simp only [List.length_cons] at short
    omega
  case h_2 => rfl

theorem messagesFrom_of_impossible {length : UInt32} {fields rest : Bytes}
    (complete : fields.length = 12)
    (impossible : length.toNat < 16 ∨ 16 + rest.length < length.toNat) (offset : Nat) :
    messagesFrom offset (Bytes.littleEndian32 length ++ fields ++ rest) =
      .error (malformed length.toNat offset) := by
  match fields, complete with
  | [t0, t1, f0, f1, s0, s1, s2, s3, p0, p1, p2, p3], _ =>
      rw [Nat.add_comm] at impossible
      simp only [Bytes.littleEndian32, List.cons_append, List.nil_append]
      rw [messagesFrom]
      simp only [Bytes.word32_littleEndian32, if_pos impossible]

/-- A message is read off the front of a buffer, and what stands behind its padding is read next. -/
theorem messagesFrom_message (fits : message.length < 2 ^ 32) (behind : Bytes) (offset : Nat) :
    messagesFrom offset (message.header ++ message.payload ++ behind) =
      (messagesFrom (offset + align message.length)
        (behind.drop (align message.length - message.length))).map (message :: ·) := by
  have measured : message.length = 16 + message.payload.length := rfl
  have reached := le_align message.length
  have possible : ¬ (message.length < 16 ∨
      (message.payload ++ behind).length + 16 < message.length) := by
    rw [List.length_append]
    omega
  have payload : (message.payload ++ behind).take (message.length - 16) = message.payload := by
    rw [Message.length, Nat.add_sub_cancel_left, List.take_left]
  have next : (message.payload ++ behind).drop (align message.length - 16) =
      behind.drop (align message.length - message.length) := by
    have past : message.payload.length ≤ align message.length - 16 := by omega
    have rest : align message.length - 16 - message.payload.length =
        align message.length - message.length := by omega
    rw [List.drop_append, List.drop_eq_nil_of_le past, List.nil_append, rest]
  rw [List.append_assoc]
  simp only [Message.header, Bytes.littleEndian32, Bytes.littleEndian16, List.cons_append,
    List.nil_append]
  rw [messagesFrom]
  simp only [Bytes.word32_littleEndian32, Bytes.word16_littleEndian16, Message.toNat_length fits,
    if_neg possible, payload, next]
  cases messagesFrom (offset + align message.length)
      (behind.drop (align message.length - message.length)) with
  | error fault => rfl
  | ok others => rfl

theorem messagesFrom_of_chained {chain : Bytes} (chained : Chained messages chain) (rest : Bytes)
    (offset : Nat) :
    messagesFrom offset (chain ++ rest) =
      (messagesFrom (offset + chain.length) rest).map (messages ++ ·) := by
  induction chained generalizing offset with
  | nil =>
      rw [List.nil_append, List.length_nil, Nat.add_zero]
      cases messagesFrom offset rest <;> rfl
  | @cons message messages padding others fits padded chained ih =>
      have length : (message.header ++ message.payload ++ (padding ++ others)).length =
          align message.length + others.length := by
        have reached := le_align message.length
        have header : message.header.length = 16 := rfl
        simp only [List.length_append, padded, header, Message.length] at reached ⊢
        omega
      rw [List.append_assoc, messagesFrom_message fits, List.append_assoc, ← padded,
        List.drop_left, ih, length, Nat.add_assoc]
      cases messagesFrom (offset + (align message.length + others.length)) rest <;> rfl

theorem messagesFrom_of_framed (framed : Framed messages bytes) (offset : Nat) :
    messagesFrom offset bytes = .ok messages := by
  cases framed with
  | whole chained short =>
      rw [messagesFrom_of_chained chained, messagesFrom_of_short short]
      exact congrArg Except.ok (List.append_nil messages)
  | cut chained fits short =>
      rw [messagesFrom_of_chained chained, messagesFrom_message fits,
        List.drop_eq_nil_of_le short.le, messagesFrom_of_short (by decide)]
      rfl

theorem messagesFrom_of_breaks {length place : Nat} (breaks : Breaks bytes length place)
    (offset : Nat) : messagesFrom offset bytes = .error (malformed length (offset + place)) := by
  cases breaks with
  | behind chained complete impossible =>
      rw [messagesFrom_of_chained chained, messagesFrom_of_impossible complete impossible]
      rfl

end Reading

section Exhaustion

variable {message : Message} {messages : List Message} {padding rest : Bytes}

theorem Framed.cons (fits : message.length < 2 ^ 32)
    (padded : padding.length = align message.length - message.length)
    (framed : Framed messages rest) :
    Framed (message :: messages) (message.header ++ message.payload ++ (padding ++ rest)) := by
  cases framed with
  | @whole _ chain tail chained short =>
      have whole := Framed.whole (.cons fits padded chained) short
      rwa [List.append_assoc _ _ tail, List.append_assoc _ chain] at whole
  | @cut _ last chain tail chained lastFits short =>
      have cut := Framed.cut (.cons fits padded chained) lastFits short
      rwa [List.append_assoc _ _ (_ ++ tail), List.append_assoc _ chain] at cut

theorem Breaks.cons (fits : message.length < 2 ^ 32)
    (padded : padding.length = align message.length - message.length) {length place : Nat}
    (breaks : Breaks rest length place) :
    ∃ later, Breaks (message.header ++ message.payload ++ (padding ++ rest)) length later := by
  cases breaks with
  | @behind _ chain fields tail _ chained complete impossible =>
      have breaks := Breaks.behind (.cons fits padded chained) complete impossible
      rw [List.append_assoc _ _ (_ ++ tail), List.append_assoc _ chain] at breaks
      exact ⟨_, breaks⟩

private theorem exists_header {bytes : Bytes} (long : 16 ≤ bytes.length) :
    ∃ length fields rest, fields.length = 12 ∧
      bytes = Bytes.littleEndian32 length ++ fields ++ rest := by
  have taken : (bytes.take 4).length = 4 := by
    simp
    omega
  obtain ⟨length, four⟩ := Bytes.exists_littleEndian32 taken
  refine ⟨length, (bytes.drop 4).take 12, bytes.drop 16, by simp; omega, ?_⟩
  have behind : bytes.drop 16 = (bytes.drop 4).drop 12 := by rw [List.drop_drop]
  rw [← four, List.append_assoc, behind, List.take_append_drop, List.take_append_drop]

/-- A header with a length that is possible starts a message. -/
theorem exists_message {length : UInt32} {fields : Bytes} (complete : fields.length = 12)
    (possible : ¬ (length.toNat < 16 ∨ 16 + rest.length < length.toNat)) :
    ∃ (message : Message) (behind : Bytes), message.length < 2 ^ 32 ∧
      Bytes.littleEndian32 length ++ fields ++ rest =
        message.header ++ message.payload ++ behind := by
  match fields, complete with
  | [t0, t1, f0, f1, s0, s1, s2, s3, p0, p1, p2, p3], _ =>
      let message : Message :=
        { type := Bytes.word16 t0 t1
          flags := Bytes.word16 f0 f1
          sequence := Bytes.word32 s0 s1 s2 s3
          port := Bytes.word32 p0 p1 p2 p3
          payload := rest.take (length.toNat - 16) }
      have measured : message.length = length.toNat := by
        simp only [message, Message.length, List.length_take]
        omega
      refine ⟨message, rest.drop (length.toNat - 16), ?_, ?_⟩
      · rw [measured]
        exact length.toNat_lt
      · have split : message.payload ++ rest.drop (length.toNat - 16) = rest :=
          List.take_append_drop _ _
        rw [List.append_assoc message.header, split, Message.header, measured, UInt32.ofNat_toNat]
        simp only [message, Bytes.littleEndian16_word16, Bytes.littleEndian32_word32,
          List.append_assoc, List.cons_append, List.nil_append]

/-- Every buffer is made of messages, or breaks somewhere. -/
theorem framed_or_breaks (bytes : Bytes) :
    (∃ messages, Framed messages bytes) ∨ ∃ length place, Breaks bytes length place := by
  induction measured : bytes.length using Nat.strong_induction_on generalizing bytes with
  | _ size ih =>
      by_cases short : bytes.length < 16
      · exact .inl ⟨[], .whole .nil short⟩
      · obtain ⟨length, fields, rest, complete, rfl⟩ := exists_header (Nat.le_of_not_lt short)
        by_cases impossible : length.toNat < 16 ∨ 16 + rest.length < length.toNat
        · exact .inr ⟨_, _, .behind .nil complete impossible⟩
        · obtain ⟨message, behind, fits, same⟩ := exists_message complete impossible
          rw [same] at measured ⊢
          by_cases cut : behind.length < align message.length - message.length
          · exact .inl ⟨_, .cut .nil fits cut⟩
          · let count := align message.length - message.length
            have padded : (behind.take count).length = count :=
              List.length_take_of_le (Nat.le_of_not_lt cut)
            have shorter : (behind.drop count).length < size := by
              have header : message.header.length = 16 := rfl
              simp only [List.length_append, List.length_drop, header] at measured ⊢
              omega
            rw [← List.take_append_drop count behind]
            rcases ih _ shorter (behind.drop count) rfl with ⟨messages, framed⟩ | ⟨_, _, breaks⟩
            · exact .inl ⟨_, framed.cons fits padded⟩
            · obtain ⟨later, found⟩ := breaks.cons fits padded
              exact .inr ⟨_, later, found⟩

end Exhaustion

theorem Chained.flatMap_bytes {messages : List Message}
    (fit : ∀ message ∈ messages, message.length < 2 ^ 32) :
    Chained messages (messages.flatMap Message.bytes) := by
  induction messages with
  | nil => exact .nil
  | cons first rest ih =>
      have behind := ih fun message member => fit message (List.mem_cons_of_mem _ member)
      have chained := Chained.cons (fit first List.mem_cons_self) (length_padding _) behind
      rwa [← List.append_assoc] at chained

/-- A buffer is read as messages exactly if it is made of them, padding included, with fewer bytes
behind them than a header takes. Otherwise there is a first header on the way whose length is less
than its own or runs past the end, and the fault quotes that length and the offset of that header.
Neither the messages nor that header reach past the end of the buffer. So messages with lengths that
fit their field, padded and written one behind the other, are the ones that are read. -/
theorem reads_exactly_framed_buffers (bytes : Bytes) :
    (∀ received, messages bytes = .ok received ↔ Framed received bytes) ∧
    (∀ fault, messages bytes = .error fault ↔
      ∃ length place, Breaks bytes length place ∧
        fault = .rejected "Malformed netlink message"
          ("length " ++ Decimal.text length ++ " at offset " ++ Decimal.text place)) ∧
    (∀ received, Framed received bytes → (received.map Message.length).sum ≤ bytes.length) ∧
    (∀ length place, Breaks bytes length place → place + 16 ≤ bytes.length) ∧
    ∀ sent : List Message, (∀ message ∈ sent, message.length < 2 ^ 32) →
      messages (sent.flatMap Message.bytes) = .ok sent := by
  refine ⟨?accepts, ?refuses, fun _ => Framed.sum_length_le, fun _ _ => Breaks.place_le, ?written⟩
  case accepts =>
    intro received
    constructor
    · intro read
      rcases framed_or_breaks bytes with ⟨others, framed⟩ | ⟨length, place, breaks⟩
      · obtain rfl := Except.ok.inj (read.symm.trans (messagesFrom_of_framed framed 0))
        exact framed
      · cases read.symm.trans (messagesFrom_of_breaks breaks 0)
    · exact fun framed => messagesFrom_of_framed framed 0
  case refuses =>
    intro fault
    constructor
    · intro refused
      rcases framed_or_breaks bytes with ⟨received, framed⟩ | ⟨length, place, breaks⟩
      · cases refused.symm.trans (messagesFrom_of_framed framed 0)
      · have quoted := messagesFrom_of_breaks breaks 0
        rw [Nat.zero_add] at quoted
        exact ⟨length, place, breaks, Except.error.inj (refused.symm.trans quoted)⟩
    · rintro ⟨length, place, breaks, rfl⟩
      have quoted := messagesFrom_of_breaks breaks 0
      rwa [Nat.zero_add] at quoted
  case written =>
    intro sent fit
    have short : ([] : Bytes).length < 16 := by decide
    have framed := Framed.whole (Chained.flatMap_bytes fit) short
    rw [List.append_nil] at framed
    exact messagesFrom_of_framed framed 0

/-- An acknowledgement, and a message that is padded. -/
def sampleMessages : List Message :=
  [⟨Message.errorType, 0, 7, 0, [0, 0, 0, 0]⟩, ⟨16, 1, 8, 9, [1, 2, 3]⟩]

theorem reads_exactly_framed_buffers_padded :
    (∀ message ∈ sampleMessages, message.length < 2 ^ 32) ∧
      messages (sampleMessages.flatMap Message.bytes) = .ok sampleMessages := by
  have fit : ∀ message ∈ sampleMessages, message.length < 2 ^ 32 := by decide
  obtain ⟨-, -, -, -, written⟩ := reads_exactly_framed_buffers []
  exact ⟨fit, written sampleMessages fit⟩

end OverlayNet.Netlink
