import Mathlib
import OverlayNet.Proofs.Files.MadeDirectories

set_option autoImplicit false

/-! # Copying files

A file is copied by emptying the target and then reading the source, so a copy holds what the source
held unless both are the same file, and a source that cannot be read leaves an empty target behind.
The permission bits of a copy can always be changed. -/

namespace OverlayNet.Files.Tree

section Put

variable {tree : Tree} {path : Path} {place : Location} {node : Node}

theorem node?_put (found : tree.fileLocation path = .ok place) (node : Node) (other : Location) :
    (tree.set place node).node? other = if other = place then some node else tree.node? other := by
  obtain ⟨-, holder, name, -, isPlace, -, -⟩ := fileLocation_eq_ok_iff.mp found
  exact node?_set tree place other node (by simp [isPlace])

theorem within_put (found : tree.fileLocation path = .ok place) (node : Node) :
    Within tree (tree.set place node) := by
  obtain ⟨-, holder, name, -, -, -, free⟩ := fileLocation_eq_ok_iff.mp found
  exact within_set (not_isDirectory_of_writable free)

private theorem fileLocation_put (found : tree.fileLocation path = .ok place)
    (file : node.writeRefusal? = none) : (tree.set place node).fileLocation path = .ok place := by
  obtain ⟨-, holder, name, -, -, -, free⟩ := fileLocation_eq_ok_iff.mp found
  exact (SameDirectories.of_set free file).fileLocation found

theorem locate_put (found : tree.fileLocation path = .ok place)
    (file : node.writeRefusal? = none) : (tree.set place node).locate path = .ok place := by
  rw [locate_of_fileLocation (fileLocation_put found file), node?_put found, if_pos rfl]
  rfl

theorem setMode_put {content : Bytes} {own : Nat} (found : tree.fileLocation path = .ok place)
    (mode : Nat) :
    (tree.set place (.file content own)).setMode path mode =
      .ok (tree.set place (.file content mode)) := by
  have located : (tree.set place (.file content own)).locate path = .ok place :=
    locate_put found rfl
  simp only [setMode, bind, Except.bind, located, node?_put found, if_true, set_set]

end Put

theorem regularFile_eq_ok_iff {tree : Tree} {path : Path} {location : Location} {mode : Nat} :
    tree.regularFile path = .ok (location, mode) ↔ tree.locate path = .ok location ∧
      ∃ node, tree.node? location = some node ∧ node.isDirectory = false ∧ node.mode = mode := by
  cases located : tree.locate path with
  | error cause => simp [regularFile, located, bind, Except.bind]
  | ok origin =>
      simp only [regularFile, located, bind, Except.bind, Except.ok.injEq]
      constructor
      · intro opened
        split at opened
        · cases opened
        · cases opened
        case h_3 node notDirectory holds =>
          obtain ⟨rfl, rfl⟩ := Prod.mk.inj (Except.ok.inj opened)
          cases node with
          | directory mode => exact absurd rfl (notDirectory mode)
          | file | networkNamespace => exact ⟨rfl, _, holds, rfl, rfl⟩
      · rintro ⟨rfl, node, holds, notDirectory, rfl⟩
        rw [holds]
        cases node with
        | directory mode => cases notDirectory
        | file | networkNamespace => rfl

/-- Whether a path leads to a namespace: a regular file that can be opened but not read. -/
def LeadsToNamespace (tree : Tree) (path : Path) : Prop :=
  ∃ location, tree.locate path = .ok location ∧ tree.node? location = some .networkNamespace

/-- What is copied from a namespace empties the target and fails. -/
theorem copy_of_leadsToNamespace {tree : Tree} {source target : Path} {place : Location}
    (leads : tree.LeadsToNamespace source) (found : tree.fileLocation target = .ok place) :
    tree.copy source target = (.error (.refused .invalidArgument),
      tree.set place (.file [] Node.networkNamespace.mode)) := by
  obtain ⟨origin, located, holds⟩ := leads
  -- No file can be written in place of the source, so it is still there.
  have elsewhere : origin ≠ place := by
    rintro rfl
    have writable := (fileLocation_eq_ok_iff.mp found).2
    simp [writeRefusal?, holds, Node.writeRefusal?] at writable
  have opened := regularFile_eq_ok_iff.mpr ⟨located, _, holds, rfl, rfl⟩
  have unread : (tree.set place (.file [] Node.networkNamespace.mode)).contentAt origin =
      .error .invalidArgument := by
    simp only [contentAt, node?_put found, if_neg elsewhere, holds, Node.content]
  simp only [copy, opened, found, unread]

/-- The ways in which a file can be copied: what this comes to, and the tree behind it. -/
inductive Copying (tree : Tree) (source target : Path) : Except Os.Cause Unit → Tree → Prop where
  /-- Either the source is no regular file, or the target cannot be written. -/
  | refused (cause : Os.Cause)
      (shut : tree.LeadsToNamespace source → ∀ place, tree.fileLocation target ≠ .ok place) :
      Copying tree source target (.error cause) tree
  /-- Both have been opened, and the target is empty before it turns out that nothing can be
  read. -/
  | unread {place : Location} (leads : tree.LeadsToNamespace source)
      (found : tree.fileLocation target = .ok place) :
      Copying tree source target (.error (.refused .invalidArgument))
        (tree.set place (.file [] Node.networkNamespace.mode))
  | copied {origin place : Location} {content : Bytes} {mode : Nat}
      (located : tree.locate source = .ok origin)
      (held : tree.node? origin = some (.file content mode))
      (found : tree.fileLocation target = .ok place) :
      Copying tree source target (.ok ())
        (tree.set place (.file (if place = origin then [] else content) mode))

theorem copying (tree : Tree) (source target : Path) :
    Copying tree source target (tree.copy source target).1 (tree.copy source target).2 := by
  cases opened : tree.regularFile source with
  | error cause =>
      simp only [copy, opened]
      refine .refused cause ?_
      rintro ⟨origin, located, holds⟩
      have regular := regularFile_eq_ok_iff.mpr ⟨located, _, holds, rfl, rfl⟩
      cases opened.symm.trans regular
  | ok regular =>
      obtain ⟨origin, mode⟩ := regular
      cases found : tree.fileLocation target with
      | error cause =>
          simp only [copy, opened, found]
          exact .refused cause fun _ place => by simp [found]
      | ok place =>
          obtain ⟨located, node, holds, notDirectory, rfl⟩ := regularFile_eq_ok_iff.mp opened
          cases node with
          | directory mode => cases notDirectory
          | file content mode =>
              have read : (tree.set place (.file [] mode)).contentAt origin =
                  .ok (if place = origin then [] else content) := by
                simp only [contentAt, node?_put found, holds, eq_comm (a := origin)]
                split_ifs <;> rfl
              simp only [copy, opened, found, Node.mode, read, set_set]
              exact .copied located holds found
          | networkNamespace =>
              have leads : tree.LeadsToNamespace source := ⟨origin, located, holds⟩
              rw [copy_of_leadsToNamespace leads found]
              exact .unread leads found

end OverlayNet.Files.Tree
