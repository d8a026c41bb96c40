import Mathlib
import OverlayNet.Netlink.Reader
import OverlayNet.Proofs.Netlink.Words

set_option autoImplicit false

/-! # Attribute trees, written and read

Attributes that are written one behind the other are read back with their types, their data and all
that is nested in them. A length field has sixteen bits, so this needs every attribute, with what is
nested in it, to be shorter than two to the sixteenth. -/

namespace OverlayNet.Netlink

theorem align_mod_four (length : Nat) : align length % 4 = 0 := by
  simp only [align]
  omega

theorem le_align (length : Nat) : length ≤ align length := by
  simp only [align]
  omega

theorem align_eq_self {length : Nat} (aligned : length % 4 = 0) : align length = length := by
  simp only [align]
  omega

theorem align_add {length : Nat} (aligned : length % 4 = 0) (more : Nat) :
    align (length + more) = length + align more := by
  simp only [align]
  omega

/-- Zeros up to a multiple of four. -/
def padding (length : Nat) : Bytes :=
  List.replicate (align length - length) 0

theorem length_padding (length : Nat) : (padding length).length = align length - length := by
  simp [padding]

private theorem padding_aligned {length : Nat} (aligned : length % 4 = 0) :
    padding length = [] := by
  simp [padding, align_eq_self aligned]

namespace Attribute

mutual

/-- The number of bytes of an attribute with its header and with what is nested in it, without the
padding behind it. -/
def length : Attribute → Nat
  | .leaf _ data => 4 + data.length
  | .nest _ children => 4 + forestLength children

/-- The number of bytes of attributes, each padded. -/
def forestLength : List Attribute → Nat
  | [] => 0
  | first :: rest => align (length first) + forestLength rest

end

mutual

/-- The bytes of an attribute, padded. -/
def bytes : Attribute → Bytes
  | .leaf type data =>
      Bytes.littleEndian16 (UInt16.ofNat (4 + data.length)) ++ Bytes.littleEndian16 type ++ data ++
        padding data.length
  | .nest type children =>
      Bytes.littleEndian16 (UInt16.ofNat (4 + (forestBytes children).length)) ++
        Bytes.littleEndian16 (type ||| nestedBit) ++ forestBytes children

/-- The bytes of attributes, one behind the other. -/
def forestBytes : List Attribute → Bytes
  | [] => []
  | first :: rest => bytes first ++ forestBytes rest

end

theorem forestLength_mod_four (forest : List Attribute) : forestLength forest % 4 = 0 := by
  induction forest with
  | nil => simp [forestLength]
  | cons first rest ih =>
      have firstAligned := align_mod_four first.length
      simp only [forestLength]
      omega

mutual

theorem length_bytes (tree : Attribute) : tree.bytes.length = align tree.length := by
  cases tree with
  | leaf type data =>
      have reached := le_align data.length
      have shifted : align (4 + data.length) = 4 + align data.length := align_add rfl data.length
      simp only [bytes, length, Bytes.littleEndian16, List.length_append, List.length_cons,
        List.length_nil, length_padding]
      omega
  | nest type children =>
      have childrenAligned := forestLength_mod_four children
      have shifted : align (4 + forestLength children) = 4 + align (forestLength children) :=
        align_add rfl (forestLength children)
      have kept := align_eq_self childrenAligned
      simp only [bytes, length, Bytes.littleEndian16, List.length_append, List.length_cons,
        List.length_nil, length_forestBytes children]
      omega

theorem length_forestBytes (forest : List Attribute) :
    (forestBytes forest).length = forestLength forest := by
  cases forest with
  | nil => rfl
  | cons first rest =>
      simp only [forestBytes, forestLength, List.length_append, length_bytes first,
        length_forestBytes rest]

end

end Attribute

namespace Writer

theorem pad_eq (writer : Writer) : writer.pad = writer.append (padding writer.buffer.length) :=
  rfl

private theorem leaf_eq (writer : Writer) (aligned : writer.buffer.length % 4 = 0) (type : UInt16)
    (data : Bytes) :
    writer.leaf type data = writer.append (Attribute.leaf type data).bytes := by
  have shifted : ∀ header : Bytes, header.length = 4 →
      padding (writer.buffer ++ (header ++ data)).length = padding data.length := by
    intro header four
    have front : (writer.buffer.length + 4) % 4 = 0 := by omega
    simp only [padding, List.length_append, four, ← Nat.add_assoc, align_add front,
      Nat.add_sub_add_left]
  simp only [leaf, pad_eq, append, Attribute.bytes]
  rw [shifted _ rfl]
  simp only [List.append_assoc]

/-- What is filled in takes the place of as many bytes. -/
theorem patch_append (before field after : Bytes) (nests : List Nat) (bytes : Bytes)
    (same : bytes.length = field.length) :
    (⟨before ++ (field ++ after), nests⟩ : Writer).patch before.length bytes =
      ⟨before ++ (bytes ++ after), nests⟩ := by
  have skipped : (before ++ (field ++ after)).drop (before.length + bytes.length) = after := by
    rw [same, ← List.length_append, ← List.append_assoc, List.drop_left]
  rw [patch, skipped]
  simp only [List.take_left, List.append_assoc]

mutual

theorem tree_eq (writer : Writer) (aligned : writer.buffer.length % 4 = 0) (tree : Attribute) :
    writer.tree tree = writer.append tree.bytes := by
  cases tree with
  | leaf type data => exact leaf_eq writer aligned type data
  | nest type children =>
      have opened : (writer.openNest type).buffer.length % 4 = 0 := by
        simp only [openNest, append, Bytes.littleEndian16, List.length_append, List.length_cons,
          List.length_nil]
        omega
      rw [tree, forest_eq (writer.openNest type) opened children]
      have measured : (writer.buffer ++ (Bytes.littleEndian16 0 ++
          (Bytes.littleEndian16 (type ||| nestedBit) ++
            Attribute.forestBytes children))).length - writer.buffer.length =
          4 + (Attribute.forestBytes children).length := by
        simp only [Bytes.littleEndian16, List.length_append, List.length_cons, List.length_nil]
        omega
      -- The length was written as zero first, and takes no more room than that.
      simp only [openNest, append, closeNest, Attribute.bytes, List.append_assoc, measured]
      rw [patch_append _ (Bytes.littleEndian16 0)]
      rfl

theorem forest_eq (writer : Writer) (aligned : writer.buffer.length % 4 = 0)
    (forest : List Attribute) :
    writer.forest forest = writer.append (Attribute.forestBytes forest) := by
  cases forest with
  | nil => simp [Writer.forest, Attribute.forestBytes, append]
  | cons first rest =>
      have next : (writer.append first.bytes).buffer.length % 4 = 0 := by
        have firstAligned := align_mod_four first.length
        simp only [append, List.length_append, first.length_bytes]
        omega
      rw [Writer.forest, tree_eq writer aligned first, forest_eq _ next rest]
      simp [Attribute.forestBytes, append]

end

end Writer

namespace Attribute

def type : Attribute → UInt16
  | .leaf type _ => type
  | .nest type _ => type

mutual

/-- Whether an attribute and all that is nested in it have a property. -/
def All (property : Attribute → Prop) : Attribute → Prop
  | .leaf type data => property (.leaf type data)
  | .nest type children => property (.nest type children) ∧ ForestAll property children

/-- Whether attributes and all that is nested in them have a property. -/
def ForestAll (property : Attribute → Prop) : List Attribute → Prop
  | [] => True
  | first :: rest => All property first ∧ ForestAll property rest

end

theorem All.root {property : Attribute → Prop} {tree : Attribute} (all : tree.All property) :
    property tree := by
  cases tree with
  | leaf type data => exact all
  | nest type children => exact all.1

/-- Whether the length of an attribute fits its field. -/
def Short (tree : Attribute) : Prop :=
  tree.length ≤ 65535

private theorem forestLength_tail_le (first : Attribute) (rest : List Attribute) :
    first.length ≤ forestLength (first :: rest) ∧
      forestLength rest ≤ forestLength (first :: rest) := by
  have reached := le_align first.length
  simp only [forestLength]
  omega

mutual

/-- What is nested in an attribute is shorter than it. -/
theorem all_short (tree : Attribute) (short : tree.Short) : tree.All Short := by
  cases tree with
  | leaf type data => exact short
  | nest type children =>
      have whole : 4 + forestLength children ≤ 65535 := short
      exact ⟨short, forestAll_short children (by omega)⟩

theorem forestAll_short (forest : List Attribute) (short : forestLength forest ≤ 65535) :
    ForestAll Short forest := by
  cases forest with
  | nil => trivial
  | cons first rest =>
      obtain ⟨firstWithin, restWithin⟩ := forestLength_tail_le first rest
      exact ⟨all_short first (firstWithin.trans short),
        forestAll_short rest (restWithin.trans short)⟩

end

/-- Whether the type of an attribute leaves the two flags of its field alone. -/
def Unflagged (tree : Attribute) : Prop :=
  tree.type.toNat < 0x4000

/-- What is received for an attribute. -/
def received : Attribute → Received
  | .leaf type data => ⟨type, false, data⟩
  | .nest type children => ⟨type, true, forestBytes children⟩

mutual

/-- Whether this attribute is what was received, the attributes in it being read in turn. -/
def Reads : Attribute → Received → Prop
  | .leaf type data, received => received = ⟨type, false, data⟩
  | .nest type children, received =>
      received.type = type ∧ received.nested = true ∧ ForestReads children received.children

/-- Whether these attributes and no others are what was received. -/
def ForestReads : List Attribute → List Received → Prop
  | [], received => received = []
  | first :: rest, received =>
      ∃ head tail, received = head :: tail ∧ Reads first head ∧ ForestReads rest tail

end

end Attribute

private theorem flags_of_leaf (type : UInt16) (unflagged : type.toNat < 0x4000) :
    type &&& typeMask = type ∧ (type &&& nestedBit != 0) = false := by
  have masked : type &&& typeMask = type := by
    rw [← UInt16.toNat_inj, UInt16.toNat_and]
    exact Nat.and_two_pow_sub_one_of_lt_two_pow (n := 14) unflagged
  have disjoint : typeMask &&& nestedBit = 0 := rfl
  have cleared : type &&& nestedBit = 0 := by
    rw [← masked, UInt16.and_assoc, disjoint, UInt16.and_zero]
  exact ⟨masked, by simp [cleared]⟩

private theorem flags_of_nest (type : UInt16) (unflagged : type.toNat < 0x4000) :
    (type ||| nestedBit) &&& typeMask = type ∧
      ((type ||| nestedBit) &&& nestedBit != 0) = true := by
  obtain ⟨masked, unset⟩ := flags_of_leaf type unflagged
  have cleared : type &&& nestedBit = 0 := by simpa using unset
  have disjoint : nestedBit &&& typeMask = 0 := rfl
  have distributed : ∀ mask : UInt16,
      (type ||| nestedBit) &&& mask = type &&& mask ||| nestedBit &&& mask := by
    intro mask
    apply UInt16.eq_of_toBitVec_eq
    exact BitVec.and_or_distrib_right
  constructor
  · rw [distributed, masked, disjoint, UInt16.or_zero]
  · rw [distributed, cleared, UInt16.and_self, UInt16.zero_or]
    rfl

/-- A header with a length that is possible starts an attribute, and what follows its padding is
read behind it. -/
theorem attributes_of_header {length field : UInt16} {rest : Bytes} (covered : 4 ≤ length.toNat)
    (within : length.toNat ≤ rest.length + 4) :
    attributes (Bytes.littleEndian16 length ++ Bytes.littleEndian16 field ++ rest) =
      ⟨field &&& typeMask, field &&& nestedBit != 0, rest.take (length.toNat - 4)⟩ ::
        attributes (rest.drop (align length.toNat - 4)) := by
  have possible : ¬ (length.toNat < 4 ∨ rest.length + 4 < length.toNat) := by omega
  simp only [Bytes.littleEndian16, List.cons_append, List.nil_append]
  rw [attributes]
  simp only [Bytes.word16_littleEndian16, if_neg possible]

/-- An attribute whose length fits its field is read as it was written. -/
theorem attributes_append (raw : UInt16) (data rest : Bytes)
    (short : 4 + data.length ≤ 65535) :
    attributes (Bytes.littleEndian16 (UInt16.ofNat (4 + data.length)) ++
        Bytes.littleEndian16 raw ++ data ++ padding data.length ++ rest) =
      ⟨raw &&& typeMask, raw &&& nestedBit != 0, data⟩ :: attributes rest := by
  have lengthRead : (UInt16.ofNat (4 + data.length)).toNat = 4 + data.length := by
    rw [UInt16.toNat_ofNat']
    exact Nat.mod_eq_of_lt (by omega)
  have within : 4 + data.length ≤ (data ++ (padding data.length ++ rest)).length + 4 := by
    rw [List.length_append]
    omega
  have behind : (data ++ (padding data.length ++ rest)).drop (align (4 + data.length) - 4) =
      rest := by
    have reached := le_align data.length
    have position : align (4 + data.length) - 4 = (data ++ padding data.length).length := by
      rw [align_add rfl, List.length_append, length_padding]
      omega
    rw [position, ← List.append_assoc, List.drop_left]
  rw [List.append_assoc _ (padding _), List.append_assoc _ data,
    attributes_of_header (by omega) (by rwa [lengthRead]), lengthRead, behind,
    Nat.add_sub_cancel_left, List.take_left]

namespace Attribute

private theorem attributes_bytes_append (tree : Attribute) (rest : Bytes) (short : tree.Short)
    (unflagged : tree.Unflagged) :
    attributes (tree.bytes ++ rest) = tree.received :: attributes rest := by
  cases tree with
  | leaf type data =>
      obtain ⟨masked, unset⟩ := flags_of_leaf type unflagged
      rw [bytes, attributes_append type data rest short, masked, unset, received]
  | nest type children =>
      obtain ⟨masked, set⟩ := flags_of_nest type unflagged
      have size := length_forestBytes children
      have aligned : (forestBytes children).length % 4 = 0 := by
        rw [size]
        exact forestLength_mod_four children
      have fitting : 4 + (forestBytes children).length ≤ 65535 := by
        rw [size]
        exact short
      have read := attributes_append (type ||| nestedBit) (forestBytes children) rest fitting
      rw [padding_aligned aligned, List.append_nil, masked, set] at read
      rw [bytes, read, received]

/-- Attributes that are written one behind the other are the ones that are read. -/
theorem attributes_forestBytes (forest : List Attribute) (short : ForestAll Short forest)
    (unflagged : ForestAll Unflagged forest) :
    attributes (forestBytes forest) = forest.map received := by
  induction forest with
  | nil => simp [forestBytes, attributes]
  | cons first rest ih =>
      rw [forestBytes, attributes_bytes_append first _ short.1.root unflagged.1.root,
        ih short.2 unflagged.2, List.map_cons]

mutual

theorem reads_received (tree : Attribute) (short : tree.All Short)
    (unflagged : tree.All Unflagged) : tree.Reads tree.received := by
  cases tree with
  | leaf type data => simp [Reads, received]
  | nest type children =>
      refine ⟨rfl, rfl, ?_⟩
      have read := forestReads_received children short.2 unflagged.2
      rw [← attributes_forestBytes children short.2 unflagged.2] at read
      exact read

private theorem forestReads_received (forest : List Attribute) (short : ForestAll Short forest)
    (unflagged : ForestAll Unflagged forest) : ForestReads forest (forest.map received) := by
  cases forest with
  | nil => rfl
  | cons first rest =>
      exact ⟨first.received, rest.map received, rfl, reads_received first short.1 unflagged.1,
        forestReads_received rest short.2 unflagged.2⟩

end

theorem forestReads_forestBytes (forest : List Attribute) (short : ForestAll Short forest)
    (unflagged : ForestAll Unflagged forest) :
    ForestReads forest (attributes (forestBytes forest)) := by
  rw [attributes_forestBytes forest short unflagged]
  exact forestReads_received forest short unflagged

end Attribute

end OverlayNet.Netlink
