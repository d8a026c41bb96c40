import OverlayNet.Files.Path
import OverlayNet.Os.Cause

set_option autoImplicit false

/-! # The file tree

The files and directories of a host, with the operations on them and the errors with which the
system refuses them. A path is followed part by part: every part but the last must lead to a
directory. There are no links of any kind, so each node has one location. An operation that fails
changes nothing, except that directories above the one that was to be made may have been made, and
that a copy may have been begun. -/

namespace OverlayNet.Files

open OverlayNet.Os (Errno Cause)

/-- The names on the way from the root to a node. -/
abbrev Location : Type := List String

inductive Node where
  | file (content : Bytes) (mode : Nat)
  | directory (mode : Nat)
  /-- A file that stands for the network namespace of a thread. -/
  | networkNamespace
deriving DecidableEq, Repr

def Node.mode : Node → Nat
  | .file _ mode => mode
  | .directory mode => mode
  | .networkNamespace => 0o444

def Node.isDirectory : Node → Bool
  | .directory _ => true
  | _ => false

/-- What is read from a node. -/
def Node.content : Node → Except Errno Bytes
  | .file content _ => .ok content
  | .directory _ => .error .isDirectory
  | .networkNamespace => .error .invalidArgument

/-- Why a node cannot be opened for writing, if it cannot. Not even its owner may write to a
namespace. -/
def Node.writeRefusal? : Node → Option Errno
  | .file _ _ => none
  | .directory _ => some .isDirectory
  | .networkNamespace => some .notPermitted

/-- Files and directories, and the directory at which paths start. The root is always there. -/
structure Tree where
  nodes : List (Location × Node)
  current : Location
deriving Repr

def newFileMode : Nat := 0o644

def newDirectoryMode : Nat := 0o755

/-- The least length, in bytes, of a path that is too long. -/
def pathLimit : Nat := 4096

/-- The greatest length of a name in bytes. -/
def nameLimit : Nat := 255

namespace Tree

def node? (tree : Tree) (location : Location) : Option Node :=
  if location = [] then some (.directory newDirectoryMode) else tree.nodes.lookup location

def set (tree : Tree) (location : Location) (node : Node) : Tree :=
  { tree with nodes := (location, node) :: tree.nodes.filter (·.1 ≠ location) }

/-- The tree without a location and everything below it. -/
def remove (tree : Tree) (location : Location) : Tree :=
  { tree with nodes := tree.nodes.filter fun entry => !location.isPrefixOf entry.1 }

def isDirectory (tree : Tree) (location : Location) : Bool :=
  match tree.node? location with
  | some node => node.isDirectory
  | none => false

/-- What is read at a location. -/
def contentAt (tree : Tree) (location : Location) : Except Errno Bytes :=
  match tree.node? location with
  | some node => node.content
  | none => .error .noEntry

/-- Why no file can be written at a location, if none can. -/
def writeRefusal? (tree : Tree) (location : Location) : Option Errno :=
  (tree.node? location).bind Node.writeRefusal?

/-- One part further from a location that is there. -/
def step (tree : Tree) (location : Location) (part : String) : Except Errno Location :=
  if !tree.isDirectory location then .error .notDirectory
  else if part = "" ∨ part = "." then .ok location
  else if part = ".." then .ok location.dropLast
  else if nameLimit < Bytes.lengthOfText part then .error .nameTooLong
  else if (tree.node? (location ++ [part])).isNone then .error .noEntry
  else .ok (location ++ [part])

def walk (tree : Tree) (location : Location) : List String → Except Errno Location
  | [] => .ok location
  | part :: rest => do
      let next ← tree.step location part
      tree.walk next rest

/-- Where the parts of a path start. The first part of a path from the root is empty. -/
def origin (tree : Tree) (parts : List String) : Location :=
  if parts.head? = some "" then [] else tree.current

/-- The place that a path names for something new. -/
inductive Place where
  /-- A directory that is there already: the root, or a path that ends in dots. -/
  | directory
  /-- A name in a directory, with a slash behind it or not. -/
  | entry (location : Location) (slash : Bool)
deriving DecidableEq, Repr

/-- The place that the parts of a path name. The directory that holds it must be there. -/
def place (tree : Tree) (parts : List String) : Except Errno Place :=
  let named := (parts.reverse.dropWhile (· = "")).reverse
  match named.getLast? with
  | none => .ok .directory
  | some last => do
      let holder ← tree.walk (tree.origin parts) named.dropLast
      if !tree.isDirectory holder then .error .notDirectory
      else if last = "." ∨ last = ".." then .ok .directory
      else .ok (.entry (holder ++ [last]) (named.length < parts.length))

/-- A path that the system can be asked about at all. -/
def checkPath (path : Path) : Except Cause Unit :=
  if path.text.toList.contains '\x00' then .error .nulInPath
  else if path.text.isEmpty then .error (.refused .noEntry)
  else if pathLimit ≤ Bytes.lengthOfText path.text then .error (.refused .nameTooLong)
  else .ok ()

def locate (tree : Tree) (path : Path) : Except Cause Location := do
  checkPath path
  (tree.walk (tree.origin path.parts) path.parts).mapError .refused

def find? (tree : Tree) (path : Path) : Option Node :=
  match tree.locate path with
  | .ok location => tree.node? location
  | .error _ => none

def read (tree : Tree) (path : Path) : Except Cause Bytes := do
  let location ← tree.locate path
  (tree.contentAt location).mapError .refused

def readText (tree : Tree) (path : Path) : Except Cause String := do
  let content ← tree.read path
  match Bytes.text? content with
  | some text => .ok text
  | none => .error .notText

/-- The location at which a path lets a file be written. -/
def fileLocation (tree : Tree) (path : Path) : Except Cause Location := do
  checkPath path
  match (← (tree.place path.parts).mapError .refused) with
  | .directory => .error (.refused .isDirectory)
  | .entry location slash =>
      if slash then .error (.refused .isDirectory)
      else if nameLimit < Bytes.lengthOfText (location.getLast?.getD "") then
        .error (.refused .nameTooLong)
      else
        match tree.writeRefusal? location with
        | some refusal => .error (.refused refusal)
        | none => .ok location

/-- The permission bits that a file at a location has once it is written. -/
def writtenMode (tree : Tree) (location : Location) (fresh : Nat) : Nat :=
  match tree.node? location with
  | some node => node.mode
  | none => fresh

/-- The tree with a file at a path that holds just these bytes. A file that was there keeps its
permission bits. -/
def write (tree : Tree) (path : Path) (content : Bytes) : Except Cause Tree := do
  let location ← tree.fileLocation path
  .ok (tree.set location (.file content (tree.writtenMode location newFileMode)))

/-- The tree with a file at a path, empty if it was not there. -/
def touch (tree : Tree) (path : Path) : Except Cause Tree := do
  let location ← tree.fileLocation path
  match tree.node? location with
  | some _ => .ok tree
  | none => .ok (tree.set location (.file [] newFileMode))

/-- Where a path leads to a regular file, and the permission bits of that file. A file that stands
for a namespace is a regular one. -/
def regularFile (tree : Tree) (path : Path) : Except Cause (Location × Nat) := do
  let location ← tree.locate path
  match tree.node? location with
  | none | some (.directory _) => .error .notRegular
  | some node => .ok (location, node.mode)

/-- Copies a regular file to a path, together with its permission bits. The target is emptied before
the source is read: a file copied to itself is empty, and a source that cannot be read leaves an
empty target behind. -/
def copy (tree : Tree) (source target : Path) : Except Cause Unit × Tree :=
  match tree.regularFile source with
  | .error cause => (.error cause, tree)
  | .ok (origin, mode) =>
      match tree.fileLocation target with
      | .error cause => (.error cause, tree)
      | .ok place =>
          let emptied := tree.set place (.file [] mode)
          match emptied.contentAt origin with
          | .error refusal => (.error (.refused refusal), emptied)
          | .ok content => (.ok (), emptied.set place (.file content mode))

def setMode (tree : Tree) (path : Path) (mode : Nat) : Except Cause Tree := do
  let location ← tree.locate path
  match tree.node? location with
  | some (.file content _) => .ok (tree.set location (.file content mode))
  | some (.directory _) => .ok (tree.set location (.directory mode))
  | some .networkNamespace => .error (.refused .notPermitted)
  | none => .error (.refused .noEntry)

/-- The tree with a new directory where the parts of a path lead. -/
def makeDirectory (tree : Tree) (parts : List String) : Except Errno Tree := do
  match (← tree.place parts) with
  | .directory => .error .alreadyExists
  | .entry location _ =>
      if nameLimit < Bytes.lengthOfText (location.getLast?.getD "") then .error .nameTooLong
      else if (tree.node? location).isSome then .error .alreadyExists
      else .ok (tree.set location (.directory newDirectoryMode))

def leadsToDirectory (tree : Tree) (parts : List String) : Bool :=
  match tree.walk (tree.origin parts) parts with
  | .ok location => tree.isDirectory location
  | .error _ => false

/-- Makes a directory where the parts lead, if need be together with those above it. Only if the one
above is missing are they made, and then this one is tried once more. What has been made stays, even
if the last attempt is refused. -/
def makeDirectories (tree : Tree) : List (List String) → Except Errno Unit × Tree
  | [] => (.ok (), tree)
  | parts :: above =>
      match tree.makeDirectory parts with
      | .ok made => (.ok (), made)
      | .error refusal =>
          if refusal = .noEntry then
            match tree.makeDirectories above with
            | (.error missing, prepared) => (.error missing, prepared)
            | (.ok (), prepared) =>
                match prepared.makeDirectory parts with
                | .ok made => (.ok (), made)
                | .error again =>
                    (if prepared.leadsToDirectory parts then .ok () else .error again, prepared)
          else (if tree.leadsToDirectory parts then .ok () else .error refusal, tree)

/-- Makes a directory at a path, if need be together with those above it. The empty path names the
current directory. -/
def ensureDirectory (tree : Tree) (path : Path) : Except Cause Unit × Tree :=
  if path.text.isEmpty then (.ok (), tree)
  else
    match checkPath path with
    | .error cause => (.error cause, tree)
    | .ok () =>
        let (outcome, made) := tree.makeDirectories (path.parts :: path.above)
        (outcome.mapError .refused, made)

/-- The tree with a node at a location below the current directory, in place of what was there, and
with the directories above it. A directory that was there stays as it is, and a file only gets its
new content: it keeps its permission bits. -/
def graft (tree : Tree) (parts : List String) (node : Node) : Tree :=
  let location := tree.current ++ parts
  let holders := (List.range (parts.length - 1)).map fun count =>
    tree.current ++ parts.take (count + 1)
  let prepared := holders.foldl
    (fun tree holder =>
      if (tree.node? holder).isSome then tree else tree.set holder (.directory newDirectoryMode))
    tree
  match prepared.node? location, node with
  | some (.directory _), .directory _ => prepared
  | some (.file _ mode), .file content _ => prepared.set location (.file content mode)
  | _, _ => (prepared.remove location).set location node

/-- What lies below the current directory: each node with the parts that lead to it. -/
def listing (tree : Tree) : List (List String × Node) :=
  tree.nodes.filterMap fun (location, node) =>
    if tree.current.isPrefixOf location && location ≠ tree.current then
      some (location.drop tree.current.length, node)
    else none

private theorem lookup_filter_location {location other : Location} (different : other ≠ location)
    (nodes : List (Location × Node)) :
    (nodes.filter (·.1 ≠ location)).lookup other = nodes.lookup other := by
  induction nodes with
  | nil => rfl
  | cons entry rest rest_ih =>
      obtain ⟨place, node⟩ := entry
      by_cases dropped : place = location
      · have skipped : (other == place) = false := by simpa [dropped] using different
        rw [List.filter_cons_of_neg (by simpa using dropped), rest_ih, List.lookup_cons, skipped]
      · rw [List.filter_cons_of_pos (by simpa using dropped), List.lookup_cons, List.lookup_cons,
          rest_ih]

/-- What was put at a location is there, and elsewhere nothing has changed. -/
theorem node?_set (tree : Tree) (location other : Location) (node : Node)
    (below : location ≠ []) :
    (tree.set location node).node? other =
      if other = location then some node else tree.node? other := by
  by_cases same : other = location
  · subst same
    simp [node?, set, below]
  · have different : (other == location) = false := by simpa using same
    by_cases root : other = []
    · simp [node?, root, Ne.symm below]
    · simp only [node?, root, set, same, if_false, List.lookup_cons, different]
      exact lookup_filter_location same tree.nodes

/-- Of two nodes put at one location the second one stays. -/
theorem set_set (tree : Tree) (location : Location) (first second : Node) :
    (tree.set location first).set location second = tree.set location second := by
  simp [set, List.filter_filter]

end Tree

end OverlayNet.Files
