import Mathlib
import OverlayNet.Masquerade.Installation
import OverlayNet.Proofs.Configuration.Usable
import OverlayNet.Proofs.Netlink.MessageStream

set_option autoImplicit false

/-! # What a masquerade batch holds

A batch is read back as its five messages, and their attributes as the trees below, which spell out
the numbers of the packet filter's interface. -/

namespace OverlayNet.Masquerade

open Netlink (Attribute Message Outgoing Writer)

/-- A text with the zero byte that closes it. -/
def closedText (text : String) : Bytes :=
  Bytes.ofText text ++ [0]

/-- The table: its name. -/
def tableTree (request : Request) : List Attribute :=
  [.leaf 1 (closedText request.table)]

/-- The chain: its table, its name, its hook (postrouting, priority 100) and its type. -/
def chainTree (request : Request) : List Attribute :=
  [.leaf 1 (closedText request.table), .leaf 3 (closedText request.chain),
    .nest 4 [.leaf 1 [0, 0, 0, 4], .leaf 2 [0, 0, 0, 100]], .leaf 7 (closedText "nat")]

/-- An element of the list of expressions: its name and its parameters. -/
def expressionTree (name : String) (parameters : List Attribute) : Attribute :=
  .nest 1 [.leaf 1 (closedText name), .nest 2 parameters]

/-- Parameters by which register 1 is compared for equality (operator 0). -/
def compareTree (data : Bytes) : List Attribute :=
  [.leaf 1 [0, 0, 0, 1], .leaf 2 [0, 0, 0, 0], .nest 3 [.leaf 1 data]]

/-- Parameters by which the first four bytes of register 1 are masked and not flipped. -/
def maskTree (mask : Bytes) : List Attribute :=
  [.leaf 1 [0, 0, 0, 1], .leaf 2 [0, 0, 0, 1], .leaf 3 [0, 0, 0, 4], .nest 4 [.leaf 1 mask],
    .nest 5 [.leaf 1 [0, 0, 0, 0]]]

/-- The expressions. The outgoing device's name (key 7) goes into register 1 and is compared, then
four bytes at offset 12 of the network header (base 1) go into that register, are masked and
compared, and at last the packet is masqueraded. -/
def expressionTrees (request : Request) : List Attribute :=
  [expressionTree "meta" [.leaf 2 [0, 0, 0, 7], .leaf 1 [0, 0, 0, 1]],
    expressionTree "cmp" (compareTree (closedText request.uplink)),
    expressionTree "payload"
      [.leaf 1 [0, 0, 0, 1], .leaf 2 [0, 0, 0, 1], .leaf 3 [0, 0, 0, 12], .leaf 4 [0, 0, 0, 4]],
    expressionTree "bitwise" (maskTree request.cluster.mask.octets),
    expressionTree "cmp" (compareTree request.cluster.network.octets),
    expressionTree "masq" []]

/-- The rule: its table, its chain and its expressions. -/
def ruleTree (request : Request) : List Attribute :=
  [.leaf 1 (closedText request.table), .leaf 2 (closedText request.chain),
    .nest 4 (expressionTrees request)]

/-- Whether the length of every attribute of a batch fits its field. -/
def Request.Short (request : Request) : Prop :=
  Attribute.ForestAll Attribute.Short (tableTree request) ∧
    Attribute.ForestAll Attribute.Short (chainTree request) ∧
      Attribute.ForestAll Attribute.Short (ruleTree request)

/-- The messages of a batch before they are written. -/
def stream (request : Request) (first : UInt32) : List Outgoing :=
  [⟨markHeading 0x10 first, []⟩,
    ⟨createHeading 0x0a00 0x405 (first + 1), tableAttributes request⟩,
    ⟨createHeading 0x0a03 0x405 (first + 2), chainAttributes request⟩,
    ⟨createHeading 0x0a06 0xc05 (first + 3), ruleAttributes request⟩,
    ⟨markHeading 0x11 (first + 4), []⟩]

theorem tableAttributes_eq (request : Request) : tableAttributes request = tableTree request :=
  rfl

theorem chainAttributes_eq (request : Request) : chainAttributes request = chainTree request :=
  rfl

theorem ruleAttributes_eq (request : Request) : ruleAttributes request = ruleTree request :=
  rfl

private theorem bytes_batch (request : Request) (first : UInt32) :
    (batch request first).bytes = (stream request first).flatMap Outgoing.bytes := by
  have written := Writer.foldl_message .empty rfl (stream request first)
  exact congrArg Writer.buffer written

/-- A batch that is shorter than two to the thirty-second bytes is read back message by message. -/
theorem messages_batch (request : Request) (first : UInt32)
    (short : (batch request first).bytes.length < 2 ^ 32) :
    Netlink.messages (batch request first).bytes =
      .ok ((stream request first).map Outgoing.message) := by
  rw [bytes_batch] at short ⊢
  exact Netlink.messages_flatMap _ short

private theorem forestLength_le {forest : List Attribute}
    (short : Attribute.ForestAll Attribute.Short forest) :
    Attribute.forestLength forest ≤ 65536 * forest.length := by
  induction forest with
  | nil => simp [Attribute.forestLength]
  | cons first rest ih =>
      have firstShort : first.length ≤ 65535 := short.1.root
      have restShort := ih short.2
      simp only [Attribute.forestLength, List.length_cons, Netlink.align]
      omega

/-- A batch whose attributes all fit their length fields fits its own. -/
theorem length_batch_lt {request : Request} (first : UInt32) (short : request.Short) :
    (batch request first).bytes.length < 2 ^ 32 := by
  obtain ⟨tableShort, chainShort, ruleShort⟩ := short
  have table : Attribute.forestLength (tableTree request) ≤ 65536 * 1 :=
    forestLength_le tableShort
  have chain : Attribute.forestLength (chainTree request) ≤ 65536 * 4 :=
    forestLength_le chainShort
  have rule : Attribute.forestLength (ruleTree request) ≤ 65536 * 3 :=
    forestLength_le ruleShort
  have mark : Attribute.forestLength [] = 0 := rfl
  rw [bytes_batch]
  simp only [stream, List.flatMap_cons, List.flatMap_nil, List.length_append, List.length_nil,
    Outgoing.length_bytes, Outgoing.length, tableAttributes_eq, chainAttributes_eq,
    ruleAttributes_eq, mark]
  omega

theorem unflagged_trees (request : Request) :
    Attribute.ForestAll Attribute.Unflagged (tableTree request) ∧
      Attribute.ForestAll Attribute.Unflagged (chainTree request) ∧
        Attribute.ForestAll Attribute.Unflagged (ruleTree request) := by
  simp [tableTree, chainTree, ruleTree, expressionTrees, expressionTree, compareTree, maskTree,
    Attribute.ForestAll, Attribute.All, Attribute.Unflagged, Attribute.type]

theorem toNat_add_of_numbered {first : UInt32} (numbered : first.toNat ≤ 2 ^ 32 - 5)
    {count : UInt32} (few : count.toNat ≤ 4) : (first + count).toNat = first.toNat + count.toNat := by
  rw [UInt32.toNat_add]
  exact Nat.mod_eq_of_lt (by omega)

private theorem length_closedText (text : String) :
    (closedText text).length = Bytes.lengthOfText text + 1 := by
  simp [closedText, Bytes.lengthOfText]

/-- Every length fits its field if the names of the table and of the chain fit theirs and the uplink
can be the name of a device. -/
theorem short_of_lengths {request : Request} (table : Bytes.lengthOfText request.table ≤ 65530)
    (chain : Bytes.lengthOfText request.chain ≤ 65530)
    (uplink : Bytes.lengthOfText request.uplink ≤ 15) : request.Short := by
  have tableShort : ∀ type, (Attribute.leaf type (closedText request.table)).Short := by
    intro type
    simp only [Attribute.Short, Attribute.length, length_closedText]
    omega
  have chainShort : ∀ type, (Attribute.leaf type (closedText request.chain)).Short := by
    intro type
    simp only [Attribute.Short, Attribute.length, length_closedText]
    omega
  have hookShort : Attribute.ForestAll Attribute.Short
      [.nest 4 [.leaf 1 [0, 0, 0, 4], .leaf 2 [0, 0, 0, 100]], .leaf 7 (closedText "nat")] :=
    Attribute.forestAll_short _ (by decide)
  have expressionsShort : (Attribute.nest 4 (expressionTrees request)).Short := by
    have wordLength : ∀ address : Ipv4, address.octets.length = 4 := fun address => rfl
    have loadLength : (closedText "meta").length = 5 := rfl
    have compareLength : (closedText "cmp").length = 4 := rfl
    have headerLength : (closedText "payload").length = 8 := rfl
    have maskLength : (closedText "bitwise").length = 8 := rfl
    have actionLength : (closedText "masq").length = 5 := rfl
    simp only [expressionTrees, expressionTree, compareTree, maskTree, Attribute.Short,
      Attribute.forestLength, Attribute.length, wordLength, loadLength, compareLength,
      headerLength, maskLength, actionLength, length_closedText request.uplink, List.length_cons,
      List.length_nil, Netlink.align]
    omega
  exact ⟨⟨tableShort 1, trivial⟩, ⟨tableShort 1, chainShort 3, hookShort⟩,
    ⟨tableShort 1, chainShort 2, Attribute.all_short _ expressionsShort, trivial⟩⟩

/-- With the names that are used, every length fits its field for an uplink that can be the name of
a device. -/
theorem short_of_nameFits {request : Request} (table : request.table = tableName)
    (chain : request.chain = chainName)
    (uplink : NetworkConfiguration.NameFits request.uplink) : request.Short := by
  apply short_of_lengths _ _ uplink.2
  · rw [table]
    decide
  · rw [chain]
    decide

/-- A batch is read back as its five messages, numbered from the first number on, and nothing is
left over; if every length fits its field, the attributes of the three messages in the middle are
the ones that were meant, and the lengths fit for every uplink that a configuration can have. -/
theorem batch_reads_back (request : Request) (first : UInt32)
    (numbered : first.toNat ≤ 2 ^ 32 - 5) :
    ((batch request first).bytes.length < 2 ^ 32 →
      ∃ opening table chain rule closing : Message,
        Netlink.messages (batch request first).bytes =
            .ok [opening, table, chain, rule, closing] ∧
          [opening, table, chain, rule, closing].map Message.type =
            [0x10, 0x0a00, 0x0a03, 0x0a06, 0x11] ∧
          [opening, table, chain, rule, closing].map (fun message => message.sequence.toNat) =
            [first.toNat, first.toNat + 1, first.toNat + 2, first.toNat + 3, first.toNat + 4] ∧
          [opening, table, chain, rule, closing].map Message.flags =
            [0x1, 0x405, 0x405, 0xc05, 0x1] ∧
          [opening, table, chain, rule, closing].map Message.port = [0, 0, 0, 0, 0] ∧
          [opening, table, chain, rule, closing].map (fun message => message.payload.take 4) =
            [[0, 0, 0, 10], [2, 0, 0, 0], [2, 0, 0, 0], [2, 0, 0, 0], [0, 0, 0, 10]] ∧
          ([opening, table, chain, rule, closing].map
              fun message => 16 + message.payload.length).sum =
            (batch request first).bytes.length ∧
          (batch request first).acknowledged = [table.sequence, chain.sequence, rule.sequence] ∧
          (request.Short →
            Attribute.ForestReads (tableTree request) table.filterAttributes ∧
              Attribute.ForestReads (chainTree request) chain.filterAttributes ∧
                Attribute.ForestReads (ruleTree request) rule.filterAttributes)) ∧
      (request.Short → (batch request first).bytes.length < 2 ^ 32) ∧
        ∀ (document : Bytes) (configuration : NetworkConfiguration),
          NetworkConfiguration.parse document = .ok configuration →
            request.uplink = configuration.uplink → request.table = tableName →
              request.chain = chainName → request.Short := by
  refine ⟨?read, length_batch_lt first, ?usual⟩
  case usual =>
    intro document configuration parsed uplink table chain
    have fits := (NetworkConfiguration.usable_of_parse parsed).uplink
    exact short_of_nameFits table chain (uplink ▸ fits)
  case read =>
    intro short
    have read := messages_batch request first short
    refine ⟨_, _, _, _, _, read, rfl, ?sequences, rfl, rfl, ?heads, ?whole, rfl, ?trees⟩
    case sequences =>
      have second : (first + 1).toNat = first.toNat + 1 :=
        toNat_add_of_numbered numbered (by decide)
      have third : (first + 2).toNat = first.toNat + 2 :=
        toNat_add_of_numbered numbered (by decide)
      have fourth : (first + 3).toNat = first.toNat + 3 :=
        toNat_add_of_numbered numbered (by decide)
      have fifth : (first + 4).toNat = first.toNat + 4 :=
        toNat_add_of_numbered numbered (by decide)
      simp only [List.map_cons, List.map_nil, Outgoing.message, markHeading, createHeading, second,
        third, fourth, fifth]
    case heads =>
      simp only [List.map_cons, List.map_nil, Outgoing.take_four_payload, Outgoing.family,
        markHeading, createHeading]
      decide
    case whole =>
      simp only [bytes_batch, stream, List.map_cons, List.map_nil, List.sum_cons, List.sum_nil,
        List.flatMap_cons, List.flatMap_nil, List.length_append, List.length_nil,
        Outgoing.length_payload, Outgoing.length_bytes]
    case trees =>
      intro fitting
      obtain ⟨tableFits, chainFits, ruleFits⟩ := fitting
      obtain ⟨tableTypes, chainTypes, ruleTypes⟩ := unflagged_trees request
      simp only [Outgoing.filterAttributes_message, tableAttributes_eq, chainAttributes_eq,
        ruleAttributes_eq]
      exact ⟨Attribute.forestReads_forestBytes _ tableFits tableTypes,
        Attribute.forestReads_forestBytes _ chainFits chainTypes,
        Attribute.forestReads_forestBytes _ ruleFits ruleTypes⟩

/-- The batch with the usual names for an uplink with a short name. -/
theorem batch_reads_back_usual :
    (1 : UInt32).toNat ≤ 2 ^ 32 - 5 ∧
      ∃ messages, Netlink.messages
          (batch ⟨tableName, chainName, "eth0", ⟨⟨0x0a000000⟩, 8, by decide⟩⟩ 1).bytes =
            .ok messages ∧ messages.length = 5 := by
  have fits : NetworkConfiguration.NameFits "eth0" := by
    constructor <;> decide
  have numbered : (1 : UInt32).toNat ≤ 2 ^ 32 - 5 := by decide
  obtain ⟨reads, short, -⟩ := batch_reads_back
    ⟨tableName, chainName, "eth0", ⟨⟨0x0a000000⟩, 8, by decide⟩⟩ 1 numbered
  obtain ⟨_, _, _, _, _, read, -⟩ := reads (short (short_of_nameFits rfl rfl fits))
  exact ⟨numbered, _, read, rfl⟩

end OverlayNet.Masquerade
