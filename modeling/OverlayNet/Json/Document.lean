import OverlayNet.Json.Lexeme

set_option autoImplicit false

/-! # The tree of a JSON document

The lexemes of a document are arranged into a tree. A document that is not well formed has a tree
too: where something else should stand the tree says what was found, and nothing follows. What fault
that is depends on whether the value there is wanted or skipped, and is decided by whoever reads the
tree. -/

namespace OverlayNet.Json

/-- What follows the last item of a list. -/
inductive ListStop where
  | closed
  | ended
  /-- A lexeme that neither separates items nor closes the list. -/
  | unseparated
  /-- Nothing: the last item is itself broken off. -/
  | inside
deriving DecidableEq, Repr

/-- What follows the last member of an object. -/
inductive ObjectStop where
  | closed
  | ended
  /-- A lexeme that neither separates members nor closes the object. -/
  | unseparated
  /-- Nothing: the value of the last member is itself broken off. -/
  | inside
  /-- Behind a comma, the end of the document. -/
  | endedAfterComma
  /-- Behind a comma, the closing brace. -/
  | closedAfterComma
  /-- A lexeme that is no text where a key must stand. -/
  | keyNotText
  /-- A key that is broken off. -/
  | keyBroken (pieces : List Piece) (ending : Ending)
  /-- A key without a colon behind it, at the end of the document or before another lexeme. -/
  | colonMissing (key : List Piece) (atEnd : Bool)
deriving DecidableEq, Repr

/-- The tree of a document that may be broken off anywhere. -/
inductive Tree where
  | null
  | boolean (value : Bool)
  | number (numeral : Numeral)
  | text (pieces : List Piece) (ending : Ending)
  | list (items : List Tree) (stop : ListStop)
  | object (members : List (List Piece × Tree)) (stop : ObjectStop)
  | brokenWord (atEnd : Bool)
  | brokenNumber (atEnd : Bool)
  | absent
  /-- A closing bracket behind a comma. -/
  | closing
  /-- Another lexeme that starts no value. -/
  | stray

/-- A document: the tree of its value, and whether anything follows the value. -/
structure Document where
  tree : Tree
  trailing : Bool

/-- A list or an object that is open around the place that has been reached, with what it holds so
far in reverse order. -/
inductive Frame where
  | item (earlier : List Tree)
  | member (earlier : List (List Piece × Tree)) (key : List Piece)

/-- The tree of a document that is broken off in the given value inside the given frames. -/
def Frame.enclose : List Frame → Tree → Tree
  | [], tree => tree
  | .item earlier :: outer, tree => enclose outer (.list (tree :: earlier).reverse .inside)
  | .member earlier key :: outer, tree =>
      enclose outer (.object ((key, tree) :: earlier).reverse .inside)

/-- What has been read last inside the innermost frame. -/
inductive Place where
  /-- Nothing of the value that must stand here; `afterComma` in a list behind a comma. -/
  | value (afterComma : Bool)
  | listStart
  /-- The last of these items. -/
  | item (items : List Tree)
  | objectStart
  | memberComma (members : List (List Piece × Tree))
  /-- The key of another member. -/
  | key (members : List (List Piece × Tree)) (key : List Piece)
  | member (members : List (List Piece × Tree))
  | whole (tree : Tree)

structure Progress where
  place : Place
  frames : List Frame

namespace Progress

def start : Progress := ⟨.value false, []⟩

def complete (tree : Tree) : List Frame → Progress
  | [] => ⟨.whole tree, []⟩
  | .item earlier :: outer => ⟨.item (tree :: earlier), outer⟩
  | .member earlier key :: outer => ⟨.member ((key, tree) :: earlier), outer⟩

def broken (frames : List Frame) (tree : Tree) : Document :=
  ⟨Frame.enclose frames tree, false⟩

def brokenList (frames : List Frame) (items : List Tree) (stop : ListStop) : Document :=
  broken frames (.list items.reverse stop)

def brokenObject (frames : List Frame) (members : List (List Piece × Tree)) (stop : ObjectStop) :
    Document :=
  broken frames (.object members.reverse stop)

/-- A lexeme where a value must stand: an opening mark, a value of its own, or the end of all. -/
def readValue (frames : List Frame) (afterComma : Bool) : Lexeme → Progress ⊕ Document
  | .objectOpen => .inl ⟨.objectStart, frames⟩
  | .listOpen => .inl ⟨.listStart, frames⟩
  | .null => .inl (complete .null frames)
  | .boolean value => .inl (complete (.boolean value) frames)
  | .number numeral => .inl (complete (.number numeral) frames)
  | .text pieces .closed => .inl (complete (.text pieces .closed) frames)
  | .text pieces ending => .inr (broken frames (.text pieces ending))
  | .brokenWord atEnd => .inr (broken frames (.brokenWord atEnd))
  | .brokenNumber atEnd => .inr (broken frames (.brokenNumber atEnd))
  | .listClose => .inr (broken frames (if afterComma then .closing else .stray))
  | _ => .inr (broken frames .stray)

def readKey (frames : List Frame) (members : List (List Piece × Tree)) :
    Lexeme → Progress ⊕ Document
  | .text pieces .closed => .inl ⟨.key members pieces, frames⟩
  | .text pieces ending => .inr (brokenObject frames members (.keyBroken pieces ending))
  | _ => .inr (brokenObject frames members .keyNotText)

def advance (progress : Progress) (lexeme : Lexeme) : Progress ⊕ Document :=
  let frames := progress.frames
  match progress.place, lexeme with
  | .value afterComma, lexeme => readValue frames afterComma lexeme
  | .listStart, .listClose => .inl (complete (.list [] .closed) frames)
  | .listStart, lexeme => readValue (.item [] :: frames) false lexeme
  | .item items, .comma => .inl ⟨.value true, .item items :: frames⟩
  | .item items, .listClose => .inl (complete (.list items.reverse .closed) frames)
  | .item items, _ => .inr (brokenList frames items .unseparated)
  | .objectStart, .objectClose => .inl (complete (.object [] .closed) frames)
  | .objectStart, lexeme => readKey frames [] lexeme
  | .memberComma members, .objectClose => .inr (brokenObject frames members .closedAfterComma)
  | .memberComma members, lexeme => readKey frames members lexeme
  | .key members key, .colon => .inl ⟨.value false, .member members key :: frames⟩
  | .key members key, _ => .inr (brokenObject frames members (.colonMissing key false))
  | .member members, .comma => .inl ⟨.memberComma members, frames⟩
  | .member members, .objectClose => .inl (complete (.object members.reverse .closed) frames)
  | .member members, _ => .inr (brokenObject frames members .unseparated)
  | .whole tree, _ => .inr ⟨tree, true⟩

def finish (progress : Progress) : Document :=
  let frames := progress.frames
  match progress.place with
  | .value _ => broken frames .absent
  | .listStart => brokenList frames [] .ended
  | .item items => brokenList frames items .ended
  | .objectStart => brokenObject frames [] .ended
  | .memberComma members => brokenObject frames members .endedAfterComma
  | .key members key => brokenObject frames members (.colonMissing key true)
  | .member members => brokenObject frames members .ended
  | .whole tree => ⟨tree, false⟩

/-- The document whose remaining lexemes are given. -/
def run (progress : Progress) : List Lexeme → Document
  | [] => progress.finish
  | lexeme :: rest =>
      match progress.advance lexeme with
      | .inl next => next.run rest
      | .inr document => document

end Progress

def Document.ofBytes (bytes : Bytes) : Document :=
  Progress.start.run (lexemes bytes)

end OverlayNet.Json
