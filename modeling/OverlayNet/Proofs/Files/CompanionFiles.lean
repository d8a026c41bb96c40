import Mathlib
import OverlayNet.Proofs.Files.WritableLocations

set_option autoImplicit false

/-! # Companion files

A path with something added to its last name leads to a file beside the one that the path leads to.
What is there makes no difference to the path itself, whatever the path leads to, and even if it
leads nowhere. -/

namespace OverlayNet.Files.Tree

/-- The parts of a path and those of its companion differ in the last one only. -/
theorem parts_appendName (path : Path) {ending : String} (plain : '/' ∉ ending.toList) :
    ∃ front last, path.parts = front ++ [last] ∧
      (path.appendName ending).parts = front ++ [last ++ ending] ∧
      (front = [] → path.text = last) := by
  obtain ⟨texts, last, before, after⟩ := splitOn_append plain path.text.toList
  refine ⟨texts.map String.ofList, String.ofList last, ?_, ?_, ?_⟩
  · simp only [Path.parts, before, List.map_append, List.map_cons, List.map_nil]
  · simp only [Path.parts, Path.appendName, String.toList_append, after, List.map_append,
      List.map_cons, List.map_nil, String.ofList_append, String.ofList_toList]
  · intro single
    have joined : ['/'].intercalate (path.text.toList.splitOn '/') = path.text.toList :=
      List.intercalate_splitOn '/'
    rw [before, List.map_eq_nil_iff.mp single, List.nil_append, List.intercalate_singleton]
      at joined
    rw [joined, String.ofList_toList]

/-- Whether two trees with the same directories hold the same everywhere but at one location. -/
structure DifferAt (place : Location) (before after : Tree) : Prop where
  directories : SameDirectories before after
  node : ∀ other, other ≠ place → after.node? other = before.node? other

namespace DifferAt

variable {place : Location} {before after last : Tree}

theorem refl (place : Location) (tree : Tree) : DifferAt place tree tree :=
  ⟨.refl tree, fun _ _ => rfl⟩

theorem trans (first : DifferAt place before after) (second : DifferAt place after last) :
    DifferAt place before last :=
  ⟨first.directories.trans second.directories,
    fun other elsewhere => (second.node other elsewhere).trans (first.node other elsewhere)⟩

/-- A file that is put where there was no directory. -/
theorem of_set {tree : Tree} (free : tree.writeRefusal? place = none) {node : Node}
    (file : node.writeRefusal? = none) : DifferAt place tree (tree.set place node) := by
  refine ⟨.of_set free file, ?_⟩
  intro other elsewhere
  rw [node?_set tree place other node (ne_nil_of_writable free), if_neg elsewhere]

/-- The same file, put into both trees. -/
theorem set {location : Location} {node : Node} (differ : DifferAt place before after)
    (free : before.writeRefusal? location = none) (file : node.writeRefusal? = none) :
    DifferAt place (before.set location node) (after.set location node) := by
  have freeAfter : after.writeRefusal? location = none :=
    (differ.directories.refusals location).trans free
  have below := ne_nil_of_writable free
  have made := SameDirectories.of_set free file
  refine ⟨made.symm.trans (differ.directories.trans (.of_set freeAfter file)), ?_⟩
  intro other elsewhere
  rw [node?_set after location other node below, node?_set before location other node below,
    differ.node other elsewhere]

/-- A name is looked up as in the other tree, unless it is the one where they differ. -/
theorem step {holder : Location} {name : String} (differ : DifferAt place before after)
    (elsewhere : holder ++ [name] ≠ place) :
    after.step holder name = before.step holder name := by
  simp only [Tree.step, differ.directories.directories, differ.node _ elsewhere]

end DifferAt

theorem location_of_step {tree : Tree} {holder location : Location} {name : String}
    (stepped : tree.step holder name = .ok location) :
    location = holder ∨ location = holder.dropLast ∨ location = holder ++ [name] := by
  simp only [step] at stepped
  split at stepped
  · cases stepped
  · split at stepped
    · exact .inl (Except.ok.inj stepped).symm
    · split at stepped
      · exact .inr (.inl (Except.ok.inj stepped).symm)
      · split at stepped
        · cases stepped
        · split at stepped
          · cases stepped
          · exact .inr (.inr (Except.ok.inj stepped).symm)

section Companion

variable {tree after : Tree} {path : Path} {ending : String}

/-- A path starts where its companion does, unless it is empty. -/
theorem origin_appendName (tree : Tree) (plain : '/' ∉ ending.toList) (named : path.text ≠ "") :
    tree.origin (path.appendName ending).parts = tree.origin path.parts := by
  obtain ⟨front, last, parts, companionParts, single⟩ := parts_appendName path plain
  rw [parts, companionParts]
  cases front with
  | nil => simp [Tree.origin, ← single rfl, named]
  | cons first rest => rfl

/-- Where the companion of a path can be written, the path itself ends in a name that is looked up
in the same directory. -/
theorem holder_of_companion {place : Location} (plain : '/' ∉ ending.toList)
    (named : path.text ≠ "") (found : tree.fileLocation (path.appendName ending) = .ok place) :
    ∃ front last holder, path.parts = front ++ [last] ∧
      tree.walk (tree.origin path.parts) front = .ok holder ∧
      tree.isDirectory holder = true ∧ place = holder ++ [last ++ ending] := by
  obtain ⟨-, holder, name, ⟨⟨front, companionParts, walked⟩, -, held⟩, rfl, -, -⟩ :=
    fileLocation_eq_ok_iff.mp found
  obtain ⟨pathFront, last, parts, otherParts, -⟩ := parts_appendName path plain
  obtain ⟨rfl, names⟩ := List.append_inj' (companionParts.symm.trans otherParts) rfl
  obtain rfl := List.singleton_inj.mp names
  rw [origin_appendName tree plain named] at walked
  exact ⟨front, last, holder, parts, walked, held, rfl⟩

section Differ

variable {place : Location}

private theorem append_ending_ne (nonempty : ending ≠ "") (holder : Location) (last : String) :
    holder ++ [last] ≠ holder ++ [last ++ ending] := by
  intro equal
  have texts := List.singleton_inj.mp (List.append_cancel_left equal)
  have characters := congrArg String.toList texts
  rw [String.toList_append, eq_comm, List.append_right_eq_self] at characters
  exact nonempty (String.toList_eq_nil_iff.mp characters)

/-- A path leads to the same place in trees that differ at its companion, and not to that
companion. -/
theorem DifferAt.locate (differ : DifferAt place tree after) (nonempty : ending ≠ "")
    (plain : '/' ∉ ending.toList) (found : tree.fileLocation (path.appendName ending) = .ok place) :
    after.locate path = tree.locate path ∧
      ∀ location, tree.locate path = .ok location → location ≠ place := by
  cases checked : checkPath path with
  | error cause =>
      have unlocated : ∀ other : Tree, other.locate path = .error cause := by
        intro other
        simp [Tree.locate, bind, Except.bind, checked]
      rw [unlocated, unlocated]
      refine ⟨rfl, ?_⟩
      intro location located
      cases located
  | ok done =>
      have named : path.text ≠ "" := by
        intro empty
        simp [checkPath, empty] at checked
      obtain ⟨front, last, holder, parts, walked, held, rfl⟩ :=
        holder_of_companion plain named found
      have elsewhere := append_ending_ne nonempty holder last
      have walkedAfter : after.walk (after.origin path.parts) front = .ok holder := by
        rw [origin, differ.directories.current]
        exact (differ.directories.walk walked held).2
      rw [locate_of_walk checked parts walked, locate_of_walk checked parts walkedAfter,
        differ.step elsewhere]
      refine ⟨rfl, ?_⟩
      intro location located
      rcases location_of_step (exceptMapError_eq_ok_iff.mp located) with rfl | rfl | rfl
      · simp
      · intro equal
        have lengths := congrArg List.length equal
        simp only [List.length_dropLast, List.length_append, List.length_singleton] at lengths
        omega
      · exact elsewhere

theorem DifferAt.read (differ : DifferAt place tree after) (nonempty : ending ≠ "")
    (plain : '/' ∉ ending.toList) (found : tree.fileLocation (path.appendName ending) = .ok place) :
    after.read path = tree.read path := by
  obtain ⟨located, elsewhere⟩ := differ.locate nonempty plain found
  cases leads : tree.locate path with
  | error cause => simp [Tree.read, located, leads, bind, Except.bind]
  | ok location =>
      simp [Tree.read, contentAt, located, leads, differ.node location (elsewhere location leads),
        bind, Except.bind]

/-- A path lets a file be written at the same place in trees that differ at its companion, or is
refused for the same cause. -/
theorem DifferAt.fileLocation (differ : DifferAt place tree after) (plain : '/' ∉ ending.toList)
    (found : tree.fileLocation (path.appendName ending) = .ok place) :
    after.fileLocation path = tree.fileLocation path := by
  have same := differ.directories
  have origin : after.origin path.parts = tree.origin path.parts := by
    simp only [Tree.origin, same.current]
  cases checked : checkPath path with
  | error cause => simp [Tree.fileLocation, checked, bind, Except.bind]
  | ok done =>
      have named : path.text ≠ "" := by
        intro empty
        simp [checkPath, empty] at checked
      obtain ⟨front, last, holder, parts, walked, held, -⟩ :=
        holder_of_companion plain named found
      -- What leads to the directory of a new name is a start of what leads to the companion's.
      have walks : ∀ start, start <+: front →
          after.walk (tree.origin path.parts) start = tree.walk (tree.origin path.parts) start := by
        rintro start ⟨rest, rfl⟩
        rw [walk_append, exceptBind_eq_ok_iff] at walked
        obtain ⟨middle, walkedStart, walkedRest⟩ := walked
        have opened := (same.walk walkedRest held).1
        rw [walkedStart, (same.walk walkedStart opened).2]
      have start : ((path.parts.reverse.dropWhile (· = "")).reverse).dropLast <+: front := by
        rw [parts]
        by_cases nonempty : last = ""
        · have dropped :=
            List.dropWhile_suffix (fun part => decide (part = "")) (l := front.reverse)
          rw [← List.reverse_prefix, List.reverse_reverse] at dropped
          simpa [nonempty] using (List.dropLast_prefix _).trans dropped
        · simp [nonempty]
      simp only [Tree.fileLocation, Tree.place, origin, walks _ start, same.directories,
        same.refusals]

end Differ

theorem read_of_touch_appendName (nonempty : ending ≠ "") (plain : '/' ∉ ending.toList)
    (touched : tree.touch (path.appendName ending) = .ok after) :
    after.read path = tree.read path := by
  obtain ⟨place, found, ⟨-, rfl⟩ | ⟨-, rfl⟩⟩ := touch_cases touched
  · rfl
  · obtain ⟨-, holder, name, -, -, -, free⟩ := fileLocation_eq_ok_iff.mp found
    exact (DifferAt.of_set free rfl).read nonempty plain found

end Companion

end OverlayNet.Files.Tree
