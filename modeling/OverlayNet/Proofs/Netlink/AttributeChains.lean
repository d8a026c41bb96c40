import Mathlib
import OverlayNet.Proofs.Netlink.AttributeTrees

set_option autoImplicit false

/-! # The attributes of an arbitrary buffer

Of any buffer, made by a writer or not, the longest chain of attributes from its start is read. The
attributes take up no more bytes than the buffer has, so what is nested in them is shorter: opening
nested attributes again and again ends, after a quarter as many levels as the buffer has bytes. -/

namespace OverlayNet.Netlink

/-- Whether an attribute stands at an offset of a buffer, behind these fields for length and type.
The two highest bits of the field for the type are flags, the highest for nesting. -/
structure StandsAt (bytes : Bytes) (offset : Nat) (length field : UInt16)
    (received : Received) : Prop where
  header : (bytes.drop offset).take 4 = Bytes.littleEndian16 length ++ Bytes.littleEndian16 field
  covered : 4 ≤ length.toNat
  within : offset + length.toNat ≤ bytes.length
  type : received.type.toNat = field.toNat % 2 ^ 14
  nested : received.nested = decide (2 ^ 15 ≤ field.toNat)
  data : received.data = (bytes.drop (offset + 4)).take (length.toNat - 4)

/-- Whether no attribute can stand at an offset of a buffer. -/
inductive EndsAt (bytes : Bytes) (offset : Nat) : Prop where
  | short (few : bytes.length < offset + 4)
  | impossible {length field : UInt16}
      (header :
        (bytes.drop offset).take 4 = Bytes.littleEndian16 length ++ Bytes.littleEndian16 field)
      (wrong : length.toNat < 4 ∨ bytes.length < offset + length.toNat)

/-- Whether attributes stand one behind the other between two offsets of a buffer, each at the next
multiple of four behind the one before. -/
inductive ChainAt (bytes : Bytes) : Nat → List Received → Nat → Prop where
  | nil (offset : Nat) : ChainAt bytes offset [] offset
  | cons {offset stop : Nat} {length field : UInt16} {received : Received} {others : List Received}
      (stands : StandsAt bytes offset length field received)
      (chain : ChainAt bytes (offset + align length.toNat) others stop) :
      ChainAt bytes offset (received :: others) stop

section Fields

theorem toNat_and_typeMask (field : UInt16) :
    (field &&& typeMask).toNat = field.toNat % 2 ^ 14 := by
  rw [UInt16.toNat_and]
  exact Nat.and_two_pow_sub_one_eq_mod _ 14

private theorem and_nestedBit_ne_zero (field : UInt16) :
    (field &&& nestedBit != 0) = decide (2 ^ 15 ≤ field.toNat) := by
  have bound := field.toNat_lt
  have top : field.toNat.testBit 15 = decide (2 ^ 15 ≤ field.toNat) := by
    rw [Nat.testBit_eq_decide_div_mod_eq, decide_eq_decide]
    omega
  have bit : (field &&& nestedBit).toNat = (field.toNat.testBit 15).toNat * 2 ^ 15 := by
    rw [UInt16.toNat_and]
    exact Nat.and_two_pow _ 15
  rw [← top, Bool.eq_iff_iff, bne_iff_ne, ne_eq, ← UInt16.toNat_inj, bit]
  cases field.toNat.testBit 15 <;> simp

end Fields

section Reading

variable {bytes : Bytes} {offset : Nat} {length field : UInt16} {received : Received}

theorem drop_eq_of_header
    (header :
      (bytes.drop offset).take 4 = Bytes.littleEndian16 length ++ Bytes.littleEndian16 field) :
    bytes.drop offset = Bytes.littleEndian16 length ++ Bytes.littleEndian16 field ++
      bytes.drop (offset + 4) := by
  rw [← header, ← List.drop_drop, List.take_append_drop]

private theorem attributes_of_standsAt (stands : StandsAt bytes offset length field received) :
    attributes (bytes.drop offset) =
      received :: attributes (bytes.drop (offset + align length.toNat)) := by
  obtain ⟨header, covered, within, type, nested, data⟩ := stands
  have room : length.toNat ≤ (bytes.drop (offset + 4)).length + 4 := by
    rw [List.length_drop]
    omega
  have behind : (bytes.drop (offset + 4)).drop (align length.toNat - 4) =
      bytes.drop (offset + align length.toNat) := by
    have reached := le_align length.toNat
    rw [List.drop_drop]
    congr 1
    omega
  have masked : field &&& typeMask = received.type := by
    rw [← UInt16.toNat_inj, type, toNat_and_typeMask]
  rw [drop_eq_of_header header, attributes_of_header covered room, masked, and_nestedBit_ne_zero,
    ← nested, ← data, behind]

private theorem attributes_of_endsAt (ends : EndsAt bytes offset) :
    attributes (bytes.drop offset) = [] := by
  cases ends with
  | short few =>
      unfold attributes
      split
      case h_1 four =>
        have long := congrArg List.length four
        simp only [List.length_drop, List.length_cons] at long
        omega
      case h_2 => rfl
  | @impossible length field header wrong =>
      have impossible :
          length.toNat < 4 ∨ (bytes.drop (offset + 4)).length + 4 < length.toNat := by
        have four := congrArg List.length header
        simp only [List.length_take, List.length_drop, Bytes.littleEndian16, List.length_append,
          List.length_cons, List.length_nil] at four ⊢
        omega
      rw [drop_eq_of_header header]
      simp only [Bytes.littleEndian16, List.cons_append, List.nil_append]
      rw [attributes]
      simp only [Bytes.word16_littleEndian16, if_pos impossible]

private theorem stands_or_ends (bytes : Bytes) (offset : Nat) :
    (∃ length field received, StandsAt bytes offset length field received) ∨
      EndsAt bytes offset := by
  match front : bytes.drop offset with
  | l0 :: l1 :: t0 :: t1 :: rest =>
      have header : (bytes.drop offset).take 4 = Bytes.littleEndian16 (Bytes.word16 l0 l1) ++
          Bytes.littleEndian16 (Bytes.word16 t0 t1) := by
        rw [front, Bytes.littleEndian16_word16, Bytes.littleEndian16_word16]
        rfl
      by_cases wrong : (Bytes.word16 l0 l1).toNat < 4 ∨
          bytes.length < offset + (Bytes.word16 l0 l1).toNat
      · exact .inr (.impossible header wrong)
      · rw [not_or, Nat.not_lt, Nat.not_lt] at wrong
        exact .inl ⟨_, _, ⟨_, _, _⟩, header, wrong.1, wrong.2, toNat_and_typeMask _, rfl, rfl⟩
  | [] | [_] | [_, _] | [_, _, _] =>
      have few := congrArg List.length front
      simp only [List.length_drop, List.length_cons, List.length_nil] at few
      exact .inr (.short (by omega))

end Reading

section Chains

variable {bytes : Bytes} {offset stop : Nat} {received : List Received}

/-- What a chain spans is read first, and what is read behind it follows. -/
theorem ChainAt.attributes_drop (chain : ChainAt bytes offset received stop) :
    attributes (bytes.drop offset) = received ++ attributes (bytes.drop stop) := by
  induction chain with
  | nil offset => rfl
  | cons stands chain ih => rw [attributes_of_standsAt stands, ih, List.cons_append]

private theorem ChainAt.le (chain : ChainAt bytes offset received stop) : offset ≤ stop := by
  induction chain with
  | nil offset => exact Nat.le_refl offset
  | cons stands chain ih => omega

/-- From every offset a chain of all that is read there leads to where no attribute can stand. -/
theorem exists_chainAt (bytes : Bytes) (offset : Nat) :
    ∃ stop, ChainAt bytes offset (attributes (bytes.drop offset)) stop ∧ EndsAt bytes stop := by
  induction left : bytes.length - offset using Nat.strong_induction_on generalizing offset with
  | _ count ih =>
      rcases stands_or_ends bytes offset with ⟨length, field, first, stands⟩ | ends
      · have reached := le_align length.toNat
        have covered := stands.covered
        have within := stands.within
        obtain ⟨stop, chain, ends⟩ :=
          ih (bytes.length - (offset + align length.toNat)) (by omega) _ rfl
        rw [attributes_of_standsAt stands]
        exact ⟨stop, .cons stands chain, ends⟩
      · rw [attributes_of_endsAt ends]
        exact ⟨offset, .nil offset, ends⟩

private theorem StandsAt.take_append {length field : UInt16} {received : Received}
    (stands : StandsAt bytes offset length field received) {cut : Nat}
    (spared : offset + length.toNat ≤ cut) (tail : Bytes) :
    StandsAt (bytes.take cut ++ tail) offset length field received := by
  obtain ⟨header, covered, within, type, nested, data⟩ := stands
  have part : ∀ start count, start + count ≤ offset + length.toNat →
      ((bytes.take cut ++ tail).drop start).take count = (bytes.drop start).take count := by
    intro start count inside
    have kept : start + count ≤ (bytes.take cut).length := by
      rw [List.length_take]
      omega
    have slice : ∀ buffer : Bytes,
        (buffer.drop start).take count = (buffer.take (start + count)).drop start := by
      intro buffer
      rw [List.drop_take, Nat.add_sub_cancel_left]
    rw [slice, slice, List.take_append_of_le_length kept, List.take_take]
    congr 2
    omega
  constructor
  case header => rw [part offset 4 (by omega), header]
  case covered => exact covered
  case within =>
    rw [List.length_append, List.length_take]
    omega
  case type => exact type
  case nested => exact nested
  case data => rw [part (offset + 4) (length.toNat - 4) (by omega), data]

/-- A chain is found in every buffer that is the same up to the end of it. -/
theorem ChainAt.take_append (chain : ChainAt bytes offset received stop) {cut : Nat}
    (spared : stop ≤ cut) (tail : Bytes) :
    ChainAt (bytes.take cut ++ tail) offset received stop := by
  induction chain with
  | nil offset => exact .nil offset
  | @cons offset stop length field first others stands chain ih =>
      have reached := le_align length.toNat
      have behind := chain.le
      exact .cons (stands.take_append (by omega) tail) (ih spared)

private theorem ChainAt.sum_le (chain : ChainAt bytes offset received stop) :
    (received.map fun received => 4 + received.data.length).sum ≤ bytes.length - offset := by
  induction chain with
  | nil offset => exact Nat.zero_le _
  | @cons offset stop length field first others stands chain ih =>
      have reached := le_align length.toNat
      have covered := stands.covered
      have within := stands.within
      have measured : first.data.length = length.toNat - 4 := by
        rw [stands.data, List.length_take, List.length_drop]
        omega
      rw [List.map_cons, List.sum_cons, measured]
      omega

private theorem sum_attributes_le (bytes : Bytes) :
    ((attributes bytes).map fun received => 4 + received.data.length).sum ≤ bytes.length := by
  obtain ⟨stop, chain, -⟩ := exists_chainAt bytes 0
  exact chain.sum_le

end Chains

namespace Expanded

def received : Expanded → Received
  | .node received _ => received

def children : Expanded → List Expanded
  | .node _ children => children

/-- The trees that stand some levels below the roots of trees. -/
def descend : Nat → List Expanded → List Expanded
  | 0, trees => trees
  | level + 1, trees => descend level (trees.flatMap children)

theorem descend_append (level : Nat) (first second : List Expanded) :
    descend level (first ++ second) = descend level first ++ descend level second := by
  induction level generalizing first second with
  | zero => rfl
  | succ level ih => rw [descend, List.flatMap_append, ih, descend, descend]

theorem descend_nil (level : Nat) : descend level [] = [] := by
  induction level with
  | zero => rfl
  | succ level ih => rw [descend, List.flatMap_nil, ih]

theorem descend_flatMap {α : Type} (level : Nat) (items : List α) (trees : α → List Expanded) :
    descend level (items.flatMap trees) = items.flatMap fun item => descend level (trees item) := by
  induction items with
  | nil => rw [List.flatMap_nil, List.flatMap_nil, descend_nil]
  | cons item rest ih => rw [List.flatMap_cons, descend_append, ih, List.flatMap_cons]

end Expanded

section Expansion

open Expanded (descend)

theorem expand_eq (bytes : Bytes) :
    expand bytes =
      (attributes bytes).map fun received => .node received (expand received.inner) := by
  rw [expand]
  simp

theorem descend_succ_expand (bytes : Bytes) (level : Nat) :
    descend (level + 1) (expand bytes) =
      (attributes bytes).flatMap fun received => descend level (expand received.inner) := by
  rw [descend, expand_eq, List.flatMap_map]
  exact Expanded.descend_flatMap level _ _

private theorem length_le_of_mem {bytes : Bytes} {received : Received}
    (member : received ∈ attributes bytes) : 4 + received.data.length ≤ bytes.length :=
  (List.le_sum_of_mem (List.mem_map_of_mem member)).trans (sum_attributes_le bytes)

private theorem length_inner_le (received : Received) :
    received.inner.length ≤ received.data.length := by
  rw [Received.inner]
  split
  · exact Nat.le_refl _
  · exact Nat.zero_le _

/-- Every level of nesting takes four bytes more. -/
theorem descend_expand_eq_nil {level : Nat} {bytes : Bytes}
    (shallow : bytes.length < 4 * (level + 1)) : descend level (expand bytes) = [] := by
  induction level generalizing bytes with
  | zero =>
      have none : attributes bytes = [] := by
        rw [List.eq_nil_iff_forall_not_mem]
        intro received member
        have room := length_le_of_mem member
        omega
      rw [descend, expand_eq, none, List.map_nil]
  | succ level ih =>
      rw [descend_succ_expand, List.flatMap_eq_nil_iff]
      intro received member
      have room := length_le_of_mem member
      have inner := length_inner_le received
      exact ih (by omega)

private theorem sum_descend_le (level : Nat) (bytes : Bytes) :
    ((descend level (expand bytes)).map fun tree => 4 + tree.received.data.length).sum ≤
      bytes.length := by
  induction level generalizing bytes with
  | zero =>
      rw [descend, expand_eq, List.map_map]
      exact sum_attributes_le bytes
  | succ level ih =>
      rw [descend_succ_expand, List.map_flatMap, List.flatMap_def, List.sum_flatten, List.map_map]
      calc
        _ ≤ ((attributes bytes).map fun received => 4 + received.data.length).sum := by
          apply List.sum_le_sum
          intro received _
          exact (ih received.inner).trans ((length_inner_le received).trans (Nat.le_add_left _ 4))
        _ ≤ bytes.length := sum_attributes_le bytes

private theorem received_children_of_mem_descend {level : Nat} {bytes : Bytes} {tree : Expanded}
    (member : tree ∈ descend level (expand bytes)) :
    tree.children.map Expanded.received = attributes tree.received.inner := by
  induction level generalizing bytes with
  | zero =>
      rw [descend, expand_eq] at member
      obtain ⟨received, -, rfl⟩ := List.mem_map.mp member
      rw [Expanded.children, Expanded.received, expand_eq, List.map_map]
      exact List.map_id _
  | succ level ih =>
      rw [descend_succ_expand] at member
      obtain ⟨received, -, inner⟩ := List.mem_flatMap.mp member
      exact ih inner

private theorem map_received_expand (bytes : Bytes) :
    (expand bytes).map Expanded.received = attributes bytes := by
  rw [expand_eq, List.map_map]
  exact List.map_id _

/-- From the start of a buffer, a chain of exactly the attributes that are read leads to the first
place where fewer bytes than a header are left, or the length is less than a header's or runs past
the end. It is the longest chain, and the attributes of any chain are read however the buffer goes
on behind it. With their headers the attributes take up no more bytes than there are. So nested
attributes can be opened again and again: what results is a finite tree of all that is inside, with
no more levels than a quarter of the bytes, and on no level with more data than the buffer. -/
theorem reads_longest_attribute_chain (bytes : Bytes) :
    (∃ stop, ChainAt bytes 0 (attributes bytes) stop ∧ EndsAt bytes stop) ∧
    (∀ received stop, ChainAt bytes 0 received stop →
      received <+: attributes bytes ∧ (EndsAt bytes stop → received = attributes bytes) ∧
        ∀ tail, received <+: attributes (bytes.take stop ++ tail)) ∧
    ((attributes bytes).map fun received => 4 + received.data.length).sum ≤ bytes.length ∧
    (expand bytes).map Expanded.received = attributes bytes ∧
    (∀ level, ∀ tree ∈ descend level (expand bytes), tree.children.map Expanded.received =
      if tree.received.nested then tree.received.children else []) ∧
    descend (bytes.length / 4) (expand bytes) = [] ∧
    ∀ level, ((descend level (expand bytes)).map fun tree => tree.received.data.length).sum ≤
      bytes.length := by
  refine ⟨exists_chainAt bytes 0, ?chains, sum_attributes_le bytes, map_received_expand bytes,
    ?children, descend_expand_eq_nil (by omega), ?levels⟩
  case chains =>
    intro received stop chain
    have read := chain.attributes_drop
    rw [List.drop_zero] at read
    refine ⟨⟨_, read.symm⟩, ?_, ?_⟩
    · intro ends
      rw [read, attributes_of_endsAt ends, List.append_nil]
    · intro tail
      have readOn := (chain.take_append (Nat.le_refl stop) tail).attributes_drop
      rw [List.drop_zero] at readOn
      exact ⟨_, readOn.symm⟩
  case children =>
    intro level tree member
    rw [received_children_of_mem_descend member, Received.inner]
    split
    · rfl
    · simp [attributes]
  case levels =>
    intro level
    apply le_trans (List.sum_le_sum _) (sum_descend_le level bytes)
    intro tree _
    exact Nat.le_add_left _ 4

/-- A nested attribute with another one in it and one byte behind that, which is padded, and then a
header whose length runs past the end. -/
def overrunningBuffer : Bytes :=
  [9, 0, 1, 0x80, 4, 0, 2, 0x40, 7, 0xff, 0xff, 0xff, 200, 0, 3, 0, 1]

theorem reads_longest_attribute_chain_overrunning :
    ChainAt overrunningBuffer 0 [⟨1, true, [4, 0, 2, 0x40, 7]⟩] 12 ∧
      EndsAt overrunningBuffer 12 ∧
      attributes overrunningBuffer = [⟨1, true, [4, 0, 2, 0x40, 7]⟩] := by
  have stands : StandsAt overrunningBuffer 0 9 0x8001 ⟨1, true, [4, 0, 2, 0x40, 7]⟩ :=
    ⟨by decide, by decide, by decide, by decide, by decide, by decide⟩
  have chain : ChainAt overrunningBuffer 0 [⟨1, true, [4, 0, 2, 0x40, 7]⟩] 12 :=
    .cons stands (.nil 12)
  have header : (overrunningBuffer.drop 12).take 4 =
      Bytes.littleEndian16 200 ++ Bytes.littleEndian16 3 := by decide
  have ends : EndsAt overrunningBuffer 12 := .impossible header (by decide)
  obtain ⟨-, chains, -⟩ := reads_longest_attribute_chain overrunningBuffer
  obtain ⟨-, exactly, -⟩ := chains _ 12 chain
  exact ⟨chain, ends, (exactly ends).symm⟩

end Expansion

end OverlayNet.Netlink
