import OverlayNet.Text.Bytes

set_option autoImplicit false

/-! # Writing messages to the kernel

A message is a header followed by attributes. An attribute is a length, a type and data, padded to a
multiple of four bytes; the data of a nested attribute are attributes again. A length is known only
at the end of what it measures, so it is written as zero first and filled in later. Lengths that do
not fit their field lose their upper bits. -/

namespace OverlayNet.Netlink

/-- The next multiple of four. -/
def align (length : Nat) : Nat :=
  (length + 3) / 4 * 4

/-- The bit that marks the type of a nested attribute. -/
def nestedBit : UInt16 := 0x8000

/-- What has been written, and where the nested attributes start that are still open, the innermost
first. -/
structure Writer where
  buffer : Bytes
  nests : List Nat
deriving DecidableEq, Repr

/-- The fixed part of a message: a header and what the packet filter expects behind it. -/
structure Heading where
  type : UInt16
  flags : UInt16
  sequence : UInt32
  family : UInt8
  resource : UInt16
deriving DecidableEq, Repr

/-- An attribute to be written: data of its own, or attributes inside. -/
inductive Attribute where
  | leaf (type : UInt16) (data : Bytes)
  | nest (type : UInt16) (children : List Attribute)

namespace Writer

def empty : Writer := ⟨[], []⟩

def append (writer : Writer) (bytes : Bytes) : Writer :=
  { writer with buffer := writer.buffer ++ bytes }

/-- The writer with the bytes at a position replaced by as many others. -/
def patch (writer : Writer) (position : Nat) (bytes : Bytes) : Writer :=
  { writer with
    buffer := writer.buffer.take position ++ bytes ++
      writer.buffer.drop (position + bytes.length) }

/-- The writer with zeros up to a multiple of four. -/
def pad (writer : Writer) : Writer :=
  writer.append (List.replicate (align writer.buffer.length - writer.buffer.length) 0)

/-- Starts a message whose length is still to be filled in. -/
def openMessage (writer : Writer) (heading : Heading) : Writer :=
  writer.append (Bytes.littleEndian32 0 ++ Bytes.littleEndian16 heading.type ++
    Bytes.littleEndian16 heading.flags ++ Bytes.littleEndian32 heading.sequence ++
    Bytes.littleEndian32 0 ++ [heading.family, 0] ++ Bytes.bigEndian16 heading.resource)

/-- Fills in the length of the message that starts at a position. -/
def closeMessage (writer : Writer) (start : Nat) : Writer :=
  writer.patch start (Bytes.littleEndian32 (UInt32.ofNat (writer.buffer.length - start)))

def leaf (writer : Writer) (type : UInt16) (data : Bytes) : Writer :=
  (writer.append (Bytes.littleEndian16 (UInt16.ofNat (4 + data.length)) ++
    Bytes.littleEndian16 type ++ data)).pad

/-- Starts a nested attribute whose length is still to be filled in. -/
def openNest (writer : Writer) (type : UInt16) : Writer :=
  { (writer.append (Bytes.littleEndian16 0 ++ Bytes.littleEndian16 (type ||| nestedBit))) with
    nests := writer.buffer.length :: writer.nests }

/-- Fills in the length of the innermost nested attribute that is open, if one is. -/
def closeNest (writer : Writer) : Writer :=
  match writer.nests with
  | [] => writer
  | start :: outer =>
      { (writer.patch start
          (Bytes.littleEndian16 (UInt16.ofNat (writer.buffer.length - start)))) with
        nests := outer }

mutual

def tree (writer : Writer) : Attribute → Writer
  | .leaf type data => writer.leaf type data
  | .nest type children => ((writer.openNest type).forest children).closeNest

def forest (writer : Writer) : List Attribute → Writer
  | [] => writer
  | first :: rest => (writer.tree first).forest rest

end

def message (writer : Writer) (heading : Heading) (attributes : List Attribute) : Writer :=
  ((writer.openMessage heading).forest attributes).closeMessage writer.buffer.length

end Writer

namespace Attribute

/-- An attribute with a text, closed by a zero byte. -/
def text (type : UInt16) (value : String) : Attribute :=
  leaf type (Bytes.ofText value ++ [0])

def word (type : UInt16) (value : UInt32) : Attribute :=
  leaf type (Bytes.bigEndian32 value)

end Attribute

end OverlayNet.Netlink
