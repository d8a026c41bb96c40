import Mathlib
import OverlayNet.Proofs.Netlink.AttributeChains

set_option autoImplicit false

/-! # Forests of attributes, written into the middle of a message

What is written for attributes does not depend on what has been written before, as long as that ends
at a multiple of four bytes. So the lengths that are filled in later are those of the attributes
themselves, and reading undoes writing: all that is opened of what is read makes up the attributes
that were written. -/

namespace OverlayNet.Netlink

namespace Attribute

/-- What is to be read for an attribute: its own data, or what an empty writer makes of the
attributes inside. -/
def root : Attribute → Received
  | .leaf type data => ⟨type, false, data⟩
  | .nest type children => ⟨type, true, (Writer.empty.forest children).buffer⟩

end Attribute

namespace Expanded

mutual

/-- The attribute to write for one that was read together with all that is inside it. -/
def written : Expanded → Attribute
  | .node received children =>
      if received.nested then .nest received.type (forestWritten children)
      else .leaf received.type received.data

def forestWritten : List Expanded → List Attribute
  | [] => []
  | first :: rest => written first :: forestWritten rest

end

end Expanded

namespace Attribute

open Expanded (written forestWritten)

private theorem buffer_forest_empty (forest : List Attribute) :
    (Writer.empty.forest forest).buffer = forestBytes forest := by
  have aligned : Writer.empty.buffer.length % 4 = 0 := rfl
  rw [Writer.forest_eq Writer.empty aligned forest]
  rfl

private theorem root_eq_received (tree : Attribute) : tree.root = tree.received := by
  cases tree with
  | leaf type data => rfl
  | nest type children => rw [root, received, buffer_forest_empty]

mutual

/-- What was read as an attribute is written as that attribute again. -/
theorem Reads.written_eq {tree : Attribute} {received : Received} (reads : tree.Reads received) :
    written (.node received (expand received.inner)) = tree := by
  cases tree with
  | leaf type data =>
      obtain rfl : received = ⟨type, false, data⟩ := reads
      rfl
  | nest type children =>
      obtain ⟨sameType, nested, inside⟩ := reads
      -- It is written from its children, so its data count only for what is read from them.
      have opened : received.inner = received.data := by rw [Received.inner, if_pos nested]
      have childrenWritten := ForestReads.forestWritten_eq inside
      rw [written, if_pos nested, opened, expand_eq, sameType]
      exact congrArg _ childrenWritten

private theorem ForestReads.forestWritten_eq {forest : List Attribute} {received : List Received}
    (reads : ForestReads forest received) :
    forestWritten (received.map fun root => .node root (expand root.inner)) = forest := by
  cases forest with
  | nil =>
      obtain rfl : received = [] := reads
      rfl
  | cons first rest =>
      obtain ⟨head, tail, rfl, firstReads, restReads⟩ := reads
      rw [List.map_cons, forestWritten, Reads.written_eq firstReads,
        ForestReads.forestWritten_eq restReads]

end

/-- Attributes that were read from a buffer are what is written for all that is inside it. -/
theorem forestWritten_expand {forest : List Attribute} {bytes : Bytes}
    (reads : ForestReads forest (attributes bytes)) : forestWritten (expand bytes) = forest := by
  rw [expand_eq]
  exact reads.forestWritten_eq

end Attribute

open Expanded (forestWritten)

/-- Attributes whose types leave the flags alone and whose lengths fit their fields are written
behind what a writer has so far, which is kept together with the nested attributes that are open
there. What is appended is what an empty writer makes of them, ends at a multiple of four bytes, and
is read as these attributes with their data; the attributes inside a nested one are read from its
data in turn, down to the last level, so that reading everything undoes the writing. -/
theorem written_forest_reads_back {writer : Writer} {forest : List Attribute}
    (aligned : writer.buffer.length % 4 = 0)
    (unflagged : Attribute.ForestAll Attribute.Unflagged forest)
    (short : Attribute.ForestAll Attribute.Short forest) :
    ∃ appended : Bytes,
      appended = (Writer.empty.forest forest).buffer ∧
      (writer.forest forest).buffer = writer.buffer ++ appended ∧
      (writer.forest forest).nests = writer.nests ∧
      (writer.forest forest).buffer.length % 4 = 0 ∧
      attributes appended = forest.map Attribute.root ∧
      Attribute.ForestReads forest (attributes appended) ∧
      forestWritten (expand appended) = forest := by
  have bytes := Attribute.buffer_forest_empty forest
  have grown := Writer.forest_eq writer aligned forest
  have reads : Attribute.ForestReads forest (attributes (Writer.empty.forest forest).buffer) := by
    rw [bytes]
    exact Attribute.forestReads_forestBytes forest short unflagged
  refine ⟨_, rfl, ?kept, ?nests, ?ends, ?roots, reads, Attribute.forestWritten_expand reads⟩
  case kept =>
    rw [grown, bytes]
    rfl
  case nests =>
    rw [grown]
    rfl
  case ends =>
    have whole := Attribute.forestLength_mod_four forest
    rw [grown, Writer.append, List.length_append, Attribute.length_forestBytes]
    omega
  case roots =>
    rw [bytes, Attribute.attributes_forestBytes forest short unflagged]
    exact List.map_congr_left fun tree _ => tree.root_eq_received.symm

/-- A writer with two nested attributes open. -/
def interruptedWriter : Writer :=
  ⟨[0xff, 0xff, 0x01, 0x80, 0xff, 0xff, 0x02, 0x80], [4, 0]⟩

/-- Attributes on three levels, some with data that need padding and some with none. -/
def unevenForest : List Attribute :=
  [.leaf 1 [7], .nest 0x3fff [.leaf 2 [], .nest 3 [.leaf 4 [1, 2, 3, 4, 5]], .nest 5 []],
    .leaf 0 []]

theorem written_forest_reads_back_uneven :
    interruptedWriter.buffer.length % 4 = 0 ∧
    Attribute.ForestAll Attribute.Unflagged unevenForest ∧
    Attribute.ForestAll Attribute.Short unevenForest ∧
    ∃ appended, (interruptedWriter.forest unevenForest).buffer =
        interruptedWriter.buffer ++ appended ∧
      (interruptedWriter.forest unevenForest).nests = [4, 0] ∧
      attributes appended = unevenForest.map Attribute.root ∧
      Attribute.ForestReads unevenForest (attributes appended) ∧
      forestWritten (expand appended) = unevenForest := by
  have aligned : interruptedWriter.buffer.length % 4 = 0 := rfl
  have unflagged : Attribute.ForestAll Attribute.Unflagged unevenForest := by
    simp [unevenForest, Attribute.ForestAll, Attribute.All, Attribute.Unflagged, Attribute.type]
  have short : Attribute.ForestAll Attribute.Short unevenForest :=
    Attribute.forestAll_short _ (by decide)
  obtain ⟨appended, -, kept, nests, -, roots, reads, again⟩ :=
    written_forest_reads_back aligned unflagged short
  exact ⟨aligned, unflagged, short, appended, kept, nests, roots, reads, again⟩

end OverlayNet.Netlink
