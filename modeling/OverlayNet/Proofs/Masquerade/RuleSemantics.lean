import Mathlib
import OverlayNet.Proofs.Masquerade.BatchReading

set_option autoImplicit false

/-! # What the masquerade rule does

The packet filter runs the expressions of a rule one after the other on a packet, over registers
whose content is not known at first. The rule of a batch masquerades exactly the packets that leave
through the uplink and come from the network of the cluster. -/

namespace OverlayNet.Masquerade

open Netlink (Attribute Message Outgoing Received)

/-- What a rule sees of a packet. -/
structure Packet where
  /-- The name of the device through which the packet leaves, without a zero byte. -/
  device : Bytes
  /-- The packet from its network header on. -/
  header : Bytes

/-- The content of the registers, by number. -/
abbrev Registers : Type := UInt32 → Bytes

/-- An expression of a rule, as far as masquerading needs it. -/
inductive Instruction where
  | loadDevice (target : UInt32)
  | loadHeader (target offset length : UInt32)
  | bitwise (source target length : UInt32) (mask flip : Bytes)
  | compareEqual (source : UInt32) (data : Bytes)
  | masquerade
deriving DecidableEq, Repr

/-- Bytes at the front of a register replaced. -/
def Registers.load (registers : Registers) (target : UInt32) (bytes : Bytes) : Registers :=
  Function.update registers target (bytes ++ (registers target).drop bytes.length)

/-- The name of a device as it is kept, filled up to sixteen bytes with zeros. -/
def Packet.deviceField (packet : Packet) : Bytes :=
  packet.device ++ List.replicate (16 - packet.device.length) 0

namespace Instruction

/-- The registers behind an instruction; nothing if the rule stops there. -/
def step (packet : Packet) (registers : Registers) : Instruction → Option Registers
  | .loadDevice target => some (registers.load target packet.deviceField)
  | .loadHeader target offset length =>
      if offset.toNat + length.toNat ≤ packet.header.length then
        some (registers.load target ((packet.header.drop offset.toNat).take length.toNat))
      else none
  | .bitwise source target length mask flip =>
      let masked := List.zipWith (· &&& ·) ((registers source).take length.toNat) mask
      some (registers.load target (List.zipWith (· ^^^ ·) masked flip))
  | .compareEqual source data =>
      if (registers source).take data.length = data then some registers else none
  | .masquerade => some registers

/-- Whether a rule comes to masquerade a packet. -/
def reaches (packet : Packet) (registers : Registers) : List Instruction → Bool
  | [] => false
  | .masquerade :: _ => true
  | instruction :: rest =>
      match instruction.step packet registers with
      | some next => reaches packet next rest
      | none => false

end Instruction

def attribute? (type : UInt16) (attributes : List Received) : Option Received :=
  attributes.find? fun received => received.type = type

def word? (type : UInt16) (attributes : List Received) : Option UInt32 :=
  (attribute? type attributes).bind Received.word?

def data? (type : UInt16) (attributes : List Received) : Option Bytes := do
  let outer ← attribute? type attributes
  let inner ← attribute? 1 outer.children
  pure inner.data

/-- The instruction with a name and parameters. Loading is known of the name of the outgoing device
(key 7) and of the network header (base 1), and comparing for equality (operator 0). -/
def instructionOf? (name : String) (parameters : List Received) : Option Instruction :=
  match name with
  | "meta" => do
      let target ← word? 1 parameters
      let key ← word? 2 parameters
      if key = 7 then some (.loadDevice target) else none
  | "cmp" => do
      let source ← word? 1 parameters
      let operator ← word? 2 parameters
      let data ← data? 3 parameters
      if operator = 0 then some (.compareEqual source data) else none
  | "payload" => do
      let target ← word? 1 parameters
      let base ← word? 2 parameters
      let offset ← word? 3 parameters
      let length ← word? 4 parameters
      if base = 1 then some (.loadHeader target offset length) else none
  | "bitwise" => do
      let source ← word? 1 parameters
      let target ← word? 2 parameters
      let length ← word? 3 parameters
      let mask ← data? 4 parameters
      let flip ← data? 5 parameters
      some (.bitwise source target length mask flip)
  | "masq" => some .masquerade
  | _ => none

/-- The instruction that an element of a list of expressions stands for. -/
def instruction? (element : Received) : Option Instruction := do
  let name ← attribute? 1 element.children
  let text ← name.text?
  let parameters ← attribute? 2 element.children
  if element.type = 1 then instructionOf? text parameters.children else none

/-- The instructions of the rule that a message adds. -/
def program? (message : Message) : Option (List Instruction) := do
  let expressions ← attribute? 4 message.filterAttributes
  expressions.children.mapM instruction?

def program (request : Request) : List Instruction :=
  [.loadDevice 1, .compareEqual 1 (closedText request.uplink), .loadHeader 1 12 4,
    .bitwise 1 1 4 request.cluster.mask.octets [0, 0, 0, 0],
    .compareEqual 1 request.cluster.network.octets, .masquerade]

private theorem closedText_prefix_iff {name device : Bytes} (nameClean : 0 ∉ name)
    (deviceClean : 0 ∉ device) (zeros : Nat) :
    name ++ [0] <+: device ++ List.replicate (zeros + 1) 0 ↔ device = name := by
  induction name generalizing device with
  | nil =>
      cases device with
      | nil => simp [List.replicate_succ]
      | cons head tail =>
          simp only [List.mem_cons, not_or] at deviceClean
          simp [List.cons_prefix_cons, deviceClean.1]
  | cons first rest ih =>
      simp only [List.mem_cons, not_or] at nameClean
      cases device with
      | nil => simp [List.replicate_succ, List.cons_prefix_cons, Ne.symm nameClean.1]
      | cons head tail =>
          simp only [List.mem_cons, not_or] at deviceClean
          simp only [List.cons_append, List.cons_prefix_cons, ih nameClean.2 deviceClean.2,
            List.cons.injEq, eq_comm (a := first)]

/-- The name of a device is the one that is compared exactly if the field starts with that name and
the zero byte behind it. -/
theorem take_deviceField_iff {packet : Packet} {name : Bytes} (nameClean : 0 ∉ name)
    (deviceClean : 0 ∉ packet.device) (deviceFits : packet.device.length ≤ 15) :
    packet.deviceField.take (name ++ [0]).length = name ++ [0] ↔ packet.device = name := by
  obtain ⟨zeros, count⟩ : ∃ zeros, 16 - packet.device.length = zeros + 1 :=
    ⟨15 - packet.device.length, by omega⟩
  rw [← closedText_prefix_iff nameClean deviceClean zeros, List.prefix_iff_eq_take,
    Packet.deviceField, count]
  exact eq_comm

private theorem octets_injective : Function.Injective Ipv4.octets := by
  intro first second same
  simp only [Ipv4.octets, List.cons.injEq, and_true] at same
  obtain ⟨o0, o1, o2, o3⟩ := same
  have read := Bytes.word32_littleEndian32 first.bits
  rw [o0, o1, o2, o3, Bytes.word32_littleEndian32] at read
  cases first
  cases second
  simpa using read.symm

private theorem zipWith_and_octets (first second : Ipv4) :
    List.zipWith (· &&& ·) first.octets second.octets =
      (⟨first.bits &&& second.bits⟩ : Ipv4).octets := by
  simp [Ipv4.octets, UInt32.shiftRight_and]

private theorem zipWith_xor_zeros (address : Ipv4) :
    List.zipWith (· ^^^ ·) address.octets [0, 0, 0, 0] = address.octets := by
  simp [Ipv4.octets]

private theorem take_load (registers : Registers) (target : UInt32) (bytes : Bytes) {count : Nat}
    (within : count ≤ bytes.length) :
    (registers.load target bytes target).take count = bytes.take count := by
  rw [Registers.load, Function.update_self, List.take_append_of_le_length within]

theorem contains_iff (cluster : Cidr) (source : Ipv4) :
    (⟨source.bits &&& cluster.mask.bits⟩ : Ipv4).octets = cluster.network.octets ↔
      cluster.contains source = true := by
  rw [octets_injective.eq_iff, Cidr.contains, beq_iff_eq]
  constructor
  · intro same
    rw [← same]
  · intro same
    rw [same]

/-- The instructions of the rule reach the masquerading of exactly the packets that leave through
the uplink with a source address in the network of the cluster. -/
theorem reaches_program_iff {request : Request} {packet : Packet} {source : Ipv4}
    {before after : Bytes} (registers : Registers) (uplinkClean : 0 ∉ Bytes.ofText request.uplink)
    (uplinkFits : Bytes.lengthOfText request.uplink ≤ 15) (deviceClean : 0 ∉ packet.device)
    (deviceFits : packet.device.length ≤ 15) (placed : before.length = 12)
    (header : packet.header = before ++ source.octets ++ after) :
    Instruction.reaches packet registers (program request) = true ↔
      packet.device = Bytes.ofText request.uplink ∧ request.cluster.contains source = true := by
  have fieldLength : packet.deviceField.length = 16 := by
    simp only [Packet.deviceField, List.length_append, List.length_replicate]
    omega
  have uplinkLength : (closedText request.uplink).length ≤ packet.deviceField.length := by
    have fits : (Bytes.ofText request.uplink).length ≤ 15 := uplinkFits
    simp only [closedText, List.length_append, List.length_cons, List.length_nil]
    omega
  have deviceMatches : (registers.load 1 packet.deviceField 1).take
      (closedText request.uplink).length = closedText request.uplink ↔
        packet.device = Bytes.ofText request.uplink := by
    rw [take_load _ _ _ uplinkLength]
    exact take_deviceField_iff uplinkClean deviceClean deviceFits
  have enough : (12 : UInt32).toNat + (4 : UInt32).toNat ≤ packet.header.length := by
    have sourceLength : source.octets.length = 4 := rfl
    simp only [header, List.length_append, placed, sourceLength, UInt32.reduceToNat]
    omega
  have loaded : (packet.header.drop (12 : UInt32).toNat).take (4 : UInt32).toNat =
      source.octets := by
    have position : (12 : UInt32).toNat = before.length := placed.symm
    have size : (4 : UInt32).toNat = source.octets.length := rfl
    rw [header, position, List.append_assoc, List.drop_left, size, List.take_left]
  -- Over all registers, since what was behind the loaded bytes is still there.
  have masked : ∀ earlier : Registers,
      List.zipWith (· ^^^ ·)
        (List.zipWith (· &&& ·)
          ((earlier.load 1 source.octets 1).take (4 : UInt32).toNat) request.cluster.mask.octets)
        [0, 0, 0, 0] = (⟨source.bits &&& request.cluster.mask.bits⟩ : Ipv4).octets := by
    intro earlier
    have kept : (earlier.load 1 source.octets 1).take (4 : UInt32).toNat = source.octets :=
      take_load earlier 1 source.octets (Nat.le_refl 4)
    rw [kept, zipWith_and_octets, zipWith_xor_zeros]
  have sourceMatches : ∀ earlier : Registers,
      (earlier.load 1 (⟨source.bits &&& request.cluster.mask.bits⟩ : Ipv4).octets 1).take
          request.cluster.network.octets.length = request.cluster.network.octets ↔
        request.cluster.contains source = true := by
    intro earlier
    rw [take_load _ _ _ (Nat.le_refl 4), ← contains_iff]
    rfl
  simp only [program, Instruction.reaches, Instruction.step, deviceMatches, if_pos enough, loaded,
    masked]
  by_cases leaves : packet.device = Bytes.ofText request.uplink
  · simp only [if_pos leaves, sourceMatches]
    by_cases inside : request.cluster.contains source = true
    · simp [leaves, inside]
    · simp [inside]
  · simp [leaves]

private theorem text?_received (type : UInt16) (text : String) :
    (Attribute.leaf type (closedText text)).received.text? = some text := by
  simp [Attribute.received, Received.text?, closedText, Bytes.text?_ofText]

private theorem children_received (type : UInt16) {children : List Attribute}
    (short : Attribute.ForestAll Attribute.Short children)
    (unflagged : Attribute.ForestAll Attribute.Unflagged children) :
    (Attribute.nest type children).received.children = children.map Attribute.received :=
  Attribute.attributes_forestBytes children short unflagged

/-- An element of a list of expressions is the instruction of its name and parameters. -/
theorem instruction?_expressionTree {name : String} {parameters : List Attribute}
    (short : (expressionTree name parameters).All Attribute.Short)
    (unflagged : (expressionTree name parameters).All Attribute.Unflagged) :
    instruction? (expressionTree name parameters).received =
      instructionOf? name (parameters.map Attribute.received) := by
  have outer := children_received 1 short.2 unflagged.2
  have inner := children_received 2 short.2.2.1.2 unflagged.2.2.1.2
  have found : attribute? 1 (expressionTree name parameters).received.children =
      some (Attribute.leaf 1 (closedText name)).received := by
    rw [expressionTree, outer]
    rfl
  have given : attribute? 2 (expressionTree name parameters).received.children =
      some (Attribute.nest 2 parameters).received := by
    rw [expressionTree, outer]
    rfl
  have listed : (expressionTree name parameters).received.type = 1 := rfl
  simp [instruction?, found, given, text?_received, inner, listed]

/-- Data that are short enough are found in the attribute that holds them. -/
theorem data?_of_attribute {type : UInt16} {data : Bytes} {attributes : List Received}
    (found : attribute? type attributes = some (Attribute.nest type [.leaf 1 data]).received)
    (short : 4 + data.length ≤ 65535) : data? type attributes = some data := by
  have plain : (1 : UInt16).toNat < 0x4000 := by decide
  have children : (Attribute.nest type [.leaf 1 data]).received.children =
      [(Attribute.leaf 1 data).received] :=
    children_received type ⟨short, trivial⟩ ⟨plain, trivial⟩
  have inner : attribute? 1 [(Attribute.leaf 1 data).received] =
      some (Attribute.leaf 1 data).received := rfl
  simp only [data?, found, children, inner, Option.bind_eq_bind, Option.bind_some]
  rfl

private theorem instructionOf?_compare {data : Bytes} (short : 4 + data.length ≤ 65535) :
    instructionOf? "cmp" ((compareTree data).map Attribute.received) =
      some (.compareEqual 1 data) := by
  have source : word? 1 ((compareTree data).map Attribute.received) = some 1 := rfl
  have operator : word? 2 ((compareTree data).map Attribute.received) = some 0 := rfl
  have compared : data? 3 ((compareTree data).map Attribute.received) = some data :=
    data?_of_attribute rfl short
  simp only [instructionOf?, source, operator, compared]
  rfl

private theorem instructionOf?_mask {mask : Bytes} (short : 4 + mask.length ≤ 65535) :
    instructionOf? "bitwise" ((maskTree mask).map Attribute.received) =
      some (.bitwise 1 1 4 mask [0, 0, 0, 0]) := by
  have source : word? 1 ((maskTree mask).map Attribute.received) = some 1 := rfl
  have target : word? 2 ((maskTree mask).map Attribute.received) = some 1 := rfl
  have length : word? 3 ((maskTree mask).map Attribute.received) = some 4 := rfl
  have masked : data? 4 ((maskTree mask).map Attribute.received) = some mask :=
    data?_of_attribute rfl short
  have flipped : data? 5 ((maskTree mask).map Attribute.received) = some [0, 0, 0, 0] :=
    data?_of_attribute rfl (by decide)
  simp only [instructionOf?, source, target, length, masked, flipped]
  rfl

private theorem mapM_expressionTrees {request : Request}
    (short : Attribute.ForestAll Attribute.Short (expressionTrees request))
    (unflagged : Attribute.ForestAll Attribute.Unflagged (expressionTrees request)) :
    ((expressionTrees request).map Attribute.received).mapM instruction? =
      some (program request) := by
  obtain ⟨loadShort, nameShort, headerShort, maskShort, networkShort, actionShort, -⟩ := short
  obtain ⟨loadPlain, namePlain, headerPlain, maskPlain, networkPlain, actionPlain, -⟩ := unflagged
  have nameFits : 4 + (closedText request.uplink).length ≤ 65535 := nameShort.2.2.1.2.2.2.1.2.1
  have octetsFit : ∀ address : Ipv4, 4 + address.octets.length ≤ 65535 := by
    intro address
    simp [Ipv4.octets]
  have load : instructionOf? "meta" ([.leaf 2 [0, 0, 0, 7],
      .leaf 1 [0, 0, 0, 1]].map Attribute.received) = some (.loadDevice 1) := rfl
  have header : instructionOf? "payload" ([.leaf 1 [0, 0, 0, 1], .leaf 2 [0, 0, 0, 1],
      .leaf 3 [0, 0, 0, 12], .leaf 4 [0, 0, 0, 4]].map Attribute.received) =
        some (.loadHeader 1 12 4) := rfl
  have action : instructionOf? "masq" ([].map Attribute.received) = some .masquerade := rfl
  simp only [expressionTrees, List.map_cons, List.map_nil, List.mapM_cons, List.mapM_nil,
    instruction?_expressionTree loadShort loadPlain,
    instruction?_expressionTree nameShort namePlain,
    instruction?_expressionTree headerShort headerPlain,
    instruction?_expressionTree maskShort maskPlain,
    instruction?_expressionTree networkShort networkPlain,
    instruction?_expressionTree actionShort actionPlain, instructionOf?_compare nameFits,
    instructionOf?_compare (octetsFit _), instructionOf?_mask (octetsFit _)]
  simp only [List.map_cons, List.map_nil] at load header action
  simp only [load, header, action]
  rfl

/-- The message of the rule is read as the instructions of the rule. -/
theorem program?_rule {request : Request} {first : UInt32}
    (short : Attribute.ForestAll Attribute.Short (ruleTree request)) :
    program? (Outgoing.message ⟨createHeading 0x0a06 0xc05 (first + 3), ruleAttributes request⟩) =
      some (program request) := by
  obtain ⟨-, -, unflagged⟩ := unflagged_trees request
  have read := Attribute.attributes_forestBytes (ruleTree request) short unflagged
  have found : attribute? 4 ((ruleTree request).map Attribute.received) =
      some (Attribute.nest 4 (expressionTrees request)).received := rfl
  have children := children_received 4 short.2.2.1.2 unflagged.2.2.1.2
  simp only [program?, Outgoing.filterAttributes_message, ruleAttributes_eq, read, found,
    Option.bind_eq_bind, Option.bind_some, children]
  exact mapM_expressionTrees short.2.2.1.2 unflagged.2.2.1.2

/-- The rule in the bytes of a batch masquerades a packet exactly if the packet leaves through the
uplink, by its whole name, and its source address lies in the network of the cluster. -/
theorem rule_masquerades_iff (request : Request) (first : UInt32)
    (tableFits : Bytes.lengthOfText request.table ≤ 65530)
    (chainFits : Bytes.lengthOfText request.chain ≤ 65530)
    (uplinkFits : Bytes.lengthOfText request.uplink ≤ 15)
    (uplinkClean : 0 ∉ Bytes.ofText request.uplink) :
    ∃ (opening table chain rule closing : Message) (instructions : List Instruction),
      Netlink.messages (batch request first).bytes =
          .ok [opening, table, chain, rule, closing] ∧
        rule.type = 0x0a06 ∧
        program? rule = some instructions ∧
        ∀ (device before after : Bytes) (source : Ipv4) (registers : Registers),
          device.length ≤ 15 → 0 ∉ device → before.length = 12 →
            (Instruction.reaches ⟨device, before ++ source.octets ++ after⟩ registers
                instructions = true ↔
              device = Bytes.ofText request.uplink ∧
                request.cluster.contains source = true) := by
  have short := short_of_lengths tableFits chainFits uplinkFits
  have read := messages_batch request first (length_batch_lt first short)
  refine ⟨_, _, _, _, _, program request, read, rfl, program?_rule short.2.2, ?_⟩
  intro device before after source registers deviceFits deviceClean placed
  exact reaches_program_iff registers uplinkClean uplinkFits deviceClean deviceFits placed rfl

/-- The rule for an uplink leaves a device alone whose name goes on behind the uplink's. -/
theorem rule_masquerades_iff_eth0 :
    ∃ instructions : List Instruction, ∀ registers : Registers,
      Instruction.reaches ⟨Bytes.ofText "eth0", List.replicate 12 0 ++ [10, 32, 0, 2]⟩ registers
          instructions = true ∧
        Instruction.reaches ⟨Bytes.ofText "eth01", List.replicate 12 0 ++ [10, 32, 0, 2]⟩ registers
          instructions = false := by
  obtain ⟨_, _, _, _, _, instructions, -, -, -, semantics⟩ := rule_masquerades_iff
    ⟨tableName, chainName, "eth0", ⟨⟨0x0a200001⟩, 8, by decide⟩⟩ 1 (by decide) (by decide)
    (by decide) (by decide)
  have matching := semantics (Bytes.ofText "eth0") (List.replicate 12 0) [] ⟨0x0a200002⟩
  have longer := semantics (Bytes.ofText "eth01") (List.replicate 12 0) [] ⟨0x0a200002⟩
  refine ⟨instructions, fun registers => ⟨?same, ?other⟩⟩
  case same => exact (matching registers (by decide) (by decide) rfl).mpr (by decide)
  case other =>
    rw [← Bool.not_eq_true]
    exact (longer registers (by decide) (by decide) rfl).not.mpr (by decide)

end OverlayNet.Masquerade
