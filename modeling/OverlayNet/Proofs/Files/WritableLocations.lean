import Mathlib
import OverlayNet.Files.Tree
import OverlayNet.Proofs.Procedure

set_option autoImplicit false

/-! # Where files can be written

A path lets a file be written where it leads through directories to a name. Only the directories and
the namespaces count, so writing files does not change where other files can be written. -/

namespace OverlayNet.Files.Tree

section Refusals

variable {tree : Tree} {location : Location}

private theorem isDirectory_iff :
    tree.isDirectory location = true ↔ tree.writeRefusal? location = some .isDirectory := by
  have others : Os.Errno.notPermitted ≠ .isDirectory := by decide
  cases found : tree.node? location with
  | none => simp [isDirectory, writeRefusal?, found]
  | some node =>
      cases node <;> simp [isDirectory, writeRefusal?, found, Node.isDirectory, Node.writeRefusal?,
        others]

theorem not_isDirectory_of_writable (writable : tree.writeRefusal? location = none) :
    tree.isDirectory location = false := by
  rw [← Bool.not_eq_true, isDirectory_iff, writable]
  simp

/-- Only the root is always there, and no file can be written in its place. -/
theorem ne_nil_of_writable (writable : tree.writeRefusal? location = none) : location ≠ [] := by
  rintro rfl
  cases writable

end Refusals

theorem walk_append (tree : Tree) (location : Location) (front back : List String) :
    tree.walk location (front ++ back) =
      (tree.walk location front).bind fun middle => tree.walk middle back := by
  induction front generalizing location with
  | nil => rfl
  | cons part rest ih =>
      simp only [List.cons_append, walk]
      cases tree.step location part with
      | error refusal => rfl
      | ok next => exact ih next

private theorem walk_singleton (tree : Tree) (location : Location) (part : String) :
    tree.walk location [part] = tree.step location part := by
  simp only [walk]
  cases tree.step location part with
  | error refusal => rfl
  | ok next => rfl

private theorem place_of_ne (tree : Tree) (front : List String) {last : String}
    (named : last ≠ "") :
    tree.place (front ++ [last]) =
      (tree.walk (tree.origin (front ++ [last])) front).bind fun holder =>
        if !tree.isDirectory holder then .error .notDirectory
        else if last = "." ∨ last = ".." then .ok .directory
        else .ok (.entry (holder ++ [last]) false) := by
  have kept : ((front ++ [last]).reverse.dropWhile (· = "")).reverse = front ++ [last] := by
    simp [named]
  simp only [place, kept, List.getLast?_append, List.getLast?_singleton, Option.some_or,
    List.dropLast_concat, Nat.lt_irrefl, decide_false]
  rfl

private theorem place_of_slash (tree : Tree) (front : List String) (location : Location) :
    tree.place (front ++ [""]) ≠ .ok (.entry location false) := by
  have dropped : (front ++ [""]).reverse.dropWhile (· = "") = front.reverse.dropWhile (· = "") := by
    simp
  have shorter : (front.reverse.dropWhile (· = "")).reverse.length < (front ++ [""]).length := by
    have suffix :=
      (List.dropWhile_suffix (fun part => decide (part = "")) (l := front.reverse)).length_le
    simp only [List.length_reverse, List.length_append, List.length_singleton] at suffix ⊢
    omega
  intro placed
  simp only [place, dropped] at placed
  split at placed
  case h_1 => cases placed
  case h_2 last named =>
    simp only [bind, exceptBind_eq_ok_iff] at placed
    obtain ⟨holder, -, placed⟩ := placed
    split at placed
    · cases placed
    · split at placed
      · cases placed
      · simp only [Except.ok.injEq, Place.entry.injEq, decide_eq_false_iff_not] at placed
        exact placed.2 shorter

/-- Whether the parts of a path lead through directories to a name that is not one of a
directory. -/
structure Leads (tree : Tree) (parts : List String) (holder : Location) (name : String) : Prop where
  parts : ∃ front, parts = front ++ [name] ∧ tree.walk (tree.origin parts) front = .ok holder
  named : name ≠ "" ∧ name ≠ "." ∧ name ≠ ".."
  held : tree.isDirectory holder = true

private theorem place_eq_entry_iff {tree : Tree} {parts : List String} {location : Location} :
    tree.place parts = .ok (.entry location false) ↔
      ∃ holder name, tree.Leads parts holder name ∧ location = holder ++ [name] := by
  constructor
  · intro placed
    rcases List.eq_nil_or_concat' parts with rfl | ⟨front, last, rfl⟩
    · cases placed
    · by_cases nonempty : last = ""
      · rw [nonempty] at placed
        exact absurd placed (place_of_slash tree front location)
      · rw [place_of_ne tree front nonempty, exceptBind_eq_ok_iff] at placed
        obtain ⟨holder, walked, placed⟩ := placed
        split at placed
        · cases placed
        · split at placed
          · cases placed
          case isFalse held dots =>
            simp only [Except.ok.injEq, Place.entry.injEq, and_true] at placed
            simp only [not_or] at dots
            exact ⟨holder, last, ⟨⟨front, rfl, walked⟩, ⟨nonempty, dots⟩, by simpa using held⟩,
              placed.symm⟩
  · intro led
    obtain ⟨holder, name, leads, rfl⟩ := led
    obtain ⟨⟨front, rfl, walked⟩, ⟨nonempty, notDot, notDots⟩, held⟩ := leads
    rw [place_of_ne tree front nonempty, walked]
    simp [Except.bind, held, notDot, notDots]

/-- Exactly when and where a path lets a file be written. -/
theorem fileLocation_eq_ok_iff {tree : Tree} {path : Path} {location : Location} :
    tree.fileLocation path = .ok location ↔
      checkPath path = .ok () ∧
        ∃ holder name, tree.Leads path.parts holder name ∧ location = holder ++ [name] ∧
          Bytes.lengthOfText name ≤ nameLimit ∧ tree.writeRefusal? location = none := by
  constructor
  · intro found
    simp only [fileLocation, bind, exceptBind_eq_ok_iff, exceptMapError_eq_ok_iff] at found
    obtain ⟨⟨⟩, checked, place, placed, found⟩ := found
    cases place with
    | directory => cases found
    | entry entry slash =>
        cases slash with
        | true => cases found
        | false =>
            obtain ⟨holder, name, leads, rfl⟩ := place_eq_entry_iff.mp placed
            simp only [Bool.false_eq_true, if_false] at found
            split at found
            case isTrue => cases found
            case isFalse short =>
              split at found
              case h_1 => cases found
              case h_2 free =>
                obtain rfl := Except.ok.inj found
                simp only [List.getLast?_append, List.getLast?_singleton, Option.some_or,
                  Option.getD_some, Nat.not_lt] at short
                exact ⟨checked, holder, name, leads, rfl, short, free⟩
  · intro allowed
    obtain ⟨checked, holder, name, leads, rfl, short, free⟩ := allowed
    have placed := place_eq_entry_iff.mpr ⟨holder, name, leads, rfl⟩
    simp [fileLocation, bind, Except.bind, checked, placed, Except.mapError, free,
      Nat.not_lt.mpr short]

/-- A path leads where its last part leads from where the parts before it lead. -/
theorem locate_of_walk {tree : Tree} {path : Path} {front : List String} {last : String}
    {holder : Location} (checked : checkPath path = .ok ()) (parts : path.parts = front ++ [last])
    (walked : tree.walk (tree.origin path.parts) front = .ok holder) :
    tree.locate path = (tree.step holder last).mapError .refused := by
  have walk : tree.walk (tree.origin path.parts) path.parts = tree.step holder last := by
    nth_rewrite 2 [parts]
    rw [walk_append, walked]
    exact walk_singleton tree holder last
  simp only [locate, bind, Except.bind, checked, walk]

/-- What a path leads to that lets a file be written: that file, if there is one. -/
theorem locate_of_fileLocation {tree : Tree} {path : Path} {location : Location}
    (found : tree.fileLocation path = .ok location) :
    tree.locate path =
      if (tree.node? location).isNone then .error (.refused .noEntry) else .ok location := by
  obtain ⟨checked, holder, name, leads, rfl, short, -⟩ := fileLocation_eq_ok_iff.mp found
  obtain ⟨⟨front, parts, walked⟩, ⟨nonempty, notDot, notDots⟩, held⟩ := leads
  rw [locate_of_walk checked parts walked]
  simp only [step, held, nonempty, notDot, notDots, Nat.not_lt.mpr short, Bool.not_true,
    Bool.false_eq_true, if_false, or_self]
  split <;> rfl

/-- A path that leads to a file by its name lets that file be written. -/
theorem fileLocation_of_locate {tree : Tree} {path : Path} {front : List String} {last : String}
    {location : Location} (parts : path.parts = front ++ [last])
    (named : last ≠ "" ∧ last ≠ "." ∧ last ≠ "..") (located : tree.locate path = .ok location)
    (free : tree.writeRefusal? location = none) : tree.fileLocation path = .ok location := by
  simp only [locate, bind, exceptBind_eq_ok_iff, exceptMapError_eq_ok_iff] at located
  obtain ⟨⟨⟩, checked, walked⟩ := located
  nth_rewrite 2 [parts] at walked
  rw [walk_append, exceptBind_eq_ok_iff] at walked
  obtain ⟨holder, walked, stepped⟩ := walked
  rw [walk_singleton] at stepped
  simp only [step, named, or_self, if_false] at stepped
  split at stepped
  · cases stepped
  case isFalse held =>
    split at stepped
    · cases stepped
    case isFalse short =>
      split at stepped
      · cases stepped
      · obtain rfl := Except.ok.inj stepped
        exact fileLocation_eq_ok_iff.mpr ⟨checked, holder, last,
          ⟨⟨front, parts, walked⟩, named, by simpa using held⟩, rfl, by simpa using short, free⟩

/-- Whether two trees have the same directories and the same namespaces, and paths start at the same
directory. -/
structure SameDirectories (before after : Tree) : Prop where
  current : after.current = before.current
  refusals : ∀ location, after.writeRefusal? location = before.writeRefusal? location

namespace SameDirectories

variable {before after last : Tree}

theorem refl (tree : Tree) : SameDirectories tree tree :=
  ⟨rfl, fun _ => rfl⟩

theorem symm (same : SameDirectories before after) : SameDirectories after before :=
  ⟨same.current.symm, fun location => (same.refusals location).symm⟩

theorem trans (first : SameDirectories before after) (second : SameDirectories after last) :
    SameDirectories before last :=
  ⟨second.current.trans first.current,
    fun location => (second.refusals location).trans (first.refusals location)⟩

theorem directories (same : SameDirectories before after) (location : Location) :
    after.isDirectory location = before.isDirectory location := by
  rw [Bool.eq_iff_iff, isDirectory_iff, isDirectory_iff, same.refusals]

private theorem node?_isSome {location : Location} (same : SameDirectories before after)
    (held : before.isDirectory location = true) : (after.node? location).isSome = true := by
  have heldAfter := (same.directories location).trans held
  simp only [isDirectory] at heldAfter
  cases found : after.node? location with
  | none => simp [found] at heldAfter
  | some node => rfl

private theorem step (same : SameDirectories before after) {location next : Location}
    {part : String}
    (stepped : before.step location part = .ok next) (held : before.isDirectory next = true) :
    after.step location part = .ok next := by
  -- Only a directory is sure to be there in the other tree, so the end of the way must be one.
  have present : next = location ++ [part] → (after.node? (location ++ [part])).isNone = false := by
    intro isNext
    subst isNext
    rw [← Bool.not_eq_true, Option.isNone_iff_eq_none]
    exact Option.isSome_iff_ne_none.mp (same.node?_isSome held)
  simp only [Tree.step, same.directories location] at stepped ⊢
  split at stepped
  case isTrue => cases stepped
  case isFalse opened =>
    rw [if_neg opened]
    split at stepped
    case isTrue stays => rw [if_pos stays, stepped]
    case isFalse moves =>
      rw [if_neg moves]
      split at stepped
      case isTrue upwards => rw [if_pos upwards, stepped]
      case isFalse downwards =>
        rw [if_neg downwards]
        split at stepped
        case isTrue => cases stepped
        case isFalse short =>
          rw [if_neg short]
          split at stepped
          case isTrue => cases stepped
          case isFalse =>
            rw [present (Except.ok.inj stepped).symm, stepped]
            rfl

theorem walk (same : SameDirectories before after) {location holder : Location}
    {parts : List String} (walked : before.walk location parts = .ok holder)
    (held : before.isDirectory holder = true) :
    before.isDirectory location = true ∧ after.walk location parts = .ok holder := by
  induction parts generalizing location with
  | nil =>
      obtain rfl := Except.ok.inj walked
      exact ⟨held, rfl⟩
  | cons part rest ih =>
      simp only [Tree.walk, bind, exceptBind_eq_ok_iff] at walked
      obtain ⟨next, stepped, walked⟩ := walked
      obtain ⟨nextHeld, walkedAfter⟩ := ih walked
      have opened : before.isDirectory location = true := by
        cases opened : before.isDirectory location with
        | true => rfl
        | false => simp [Tree.step, opened] at stepped
      refine ⟨opened, ?_⟩
      rw [Tree.walk, same.step stepped nextHeld]
      exact walkedAfter

theorem fileLocation (same : SameDirectories before after) {path : Path} {location : Location}
    (found : before.fileLocation path = .ok location) :
    after.fileLocation path = .ok location := by
  obtain ⟨checked, holder, name, leads, rfl, short, free⟩ := fileLocation_eq_ok_iff.mp found
  obtain ⟨⟨front, parts, walked⟩, named, held⟩ := leads
  have origin : after.origin path.parts = before.origin path.parts := by
    simp only [Tree.origin, same.current]
  refine fileLocation_eq_ok_iff.mpr ⟨checked, holder, name, ⟨⟨front, parts, ?_⟩, named, ?_⟩, rfl,
    short, ?_⟩
  · rw [origin]
    exact (same.walk walked held).2
  · rw [same.directories, held]
  · rw [same.refusals, free]

theorem of_set {location : Location} (free : before.writeRefusal? location = none) {node : Node}
    (file : node.writeRefusal? = none) : SameDirectories before (before.set location node) := by
  refine ⟨rfl, ?_⟩
  intro other
  simp only [writeRefusal?, node?_set before location other node (ne_nil_of_writable free)]
    at free ⊢
  by_cases same : other = location
  · simp only [same, if_true, Option.bind_some, file, free]
  · simp only [if_neg same]

end SameDirectories

/-- Whether a location holds the same in two trees with the same directories. -/
structure Spares (location : Location) (before after : Tree) : Prop where
  directories : SameDirectories before after
  node : after.node? location = before.node? location

namespace Spares

variable {location : Location} {before after last : Tree}

theorem refl (tree : Tree) : Spares location tree tree :=
  ⟨.refl tree, rfl⟩

theorem trans (first : Spares location before after) (second : Spares location after last) :
    Spares location before last :=
  ⟨first.directories.trans second.directories, second.node.trans first.node⟩

/-- A file that is put somewhere else. -/
theorem of_set {tree : Tree} {path : Path} {other : Location}
    (found : tree.fileLocation path = .ok other) (elsewhere : other ≠ location) {node : Node}
    (file : node.writeRefusal? = none) : Spares location tree (tree.set other node) := by
  obtain ⟨-, holder, name, -, below, -, free⟩ := fileLocation_eq_ok_iff.mp found
  refine ⟨.of_set free file, ?_⟩
  rw [node?_set tree other location node (by simp [below]), if_neg elsewhere.symm]

end Spares

theorem spares_of_write {tree after : Tree} {path : Path} {content : Bytes} {location : Location}
    (written : tree.write path content = .ok after)
    (elsewhere : ∀ other, tree.fileLocation path = .ok other → other ≠ location) :
    Spares location tree after := by
  simp only [write, bind, exceptBind_eq_ok_iff] at written
  obtain ⟨other, found, written⟩ := written
  obtain rfl := Except.ok.inj written
  exact .of_set found (elsewhere other found) rfl

/-- Touching a path either finds something there, or makes an empty file where nothing was. -/
theorem touch_cases {tree after : Tree} {path : Path} (touched : tree.touch path = .ok after) :
    ∃ location, tree.fileLocation path = .ok location ∧
      (tree.node? location ≠ none ∧ after = tree ∨
        tree.node? location = none ∧ after = tree.set location (.file [] newFileMode)) := by
  simp only [touch, bind, exceptBind_eq_ok_iff] at touched
  obtain ⟨location, found, touched⟩ := touched
  refine ⟨location, found, ?_⟩
  cases present : tree.node? location with
  | some node =>
      rw [present] at touched
      exact .inl ⟨Option.some_ne_none node, (Except.ok.inj touched).symm⟩
  | none =>
      rw [present] at touched
      exact .inr ⟨rfl, (Except.ok.inj touched).symm⟩

/-- A file that is there already is left as it is. -/
theorem touch_eq_self_iff {tree : Tree} {path : Path} :
    tree.touch path = .ok tree ↔
      ∃ location, tree.fileLocation path = .ok location ∧ tree.node? location ≠ none := by
  constructor
  · intro touched
    simp only [touch, bind, exceptBind_eq_ok_iff] at touched
    obtain ⟨location, found, touched⟩ := touched
    refine ⟨location, found, ?_⟩
    intro missing
    obtain ⟨-, holder, name, -, below, -, -⟩ := fileLocation_eq_ok_iff.mp found
    have present := node?_set tree location location (.file [] newFileMode) (by simp [below])
    rw [missing] at touched
    rw [Except.ok.inj touched, missing, if_pos rfl] at present
    cases present
  · intro there
    obtain ⟨location, found, present⟩ := there
    obtain ⟨node, holds⟩ := Option.ne_none_iff_exists'.mp present
    simp [touch, bind, Except.bind, found, holds]

/-- Where a path lets a file be written, a file is there once it is touched. -/
theorem touch_of_fileLocation {tree : Tree} {path : Path} {location : Location}
    (found : tree.fileLocation path = .ok location) :
    ∃ after, tree.touch path = .ok after ∧ after.touch path = .ok after := by
  cases present : tree.node? location with
  | some node =>
      have self : tree.touch path = .ok tree :=
        touch_eq_self_iff.mpr ⟨location, found, by simp [present]⟩
      exact ⟨tree, self, self⟩
  | none =>
      obtain ⟨-, holder, name, -, below, -, free⟩ := fileLocation_eq_ok_iff.mp found
      refine ⟨tree.set location (.file [] newFileMode), ?_, ?_⟩
      · simp [touch, bind, Except.bind, found, present]
      · refine touch_eq_self_iff.mpr
          ⟨location, (SameDirectories.of_set free rfl).fileLocation found, ?_⟩
        rw [node?_set tree location location _ (by simp [below]), if_pos rfl]
        exact Option.some_ne_none _

/-- A file that is there stays there when another one is written. -/
theorem touch_of_write {tree after : Tree} {path other : Path} {content : Bytes}
    (there : tree.touch path = .ok tree) (written : tree.write other content = .ok after)
    (elsewhere : ∀ location place, tree.fileLocation path = .ok location →
      tree.fileLocation other = .ok place → place ≠ location) :
    after.touch path = .ok after := by
  obtain ⟨location, found, present⟩ := touch_eq_self_iff.mp there
  have spares := spares_of_write written fun place => elsewhere location place found
  refine touch_eq_self_iff.mpr ⟨location, spares.directories.fileLocation found, ?_⟩
  rw [spares.node]
  exact present

/-- A file that is written where a path allows it holds just what was written. -/
theorem write_of_fileLocation {tree : Tree} {path : Path} {location : Location}
    (found : tree.fileLocation path = .ok location) (content : Bytes) :
    ∃ after mode, tree.write path content = .ok after ∧ SameDirectories tree after ∧
      after.node? location = some (.file content mode) := by
  obtain ⟨-, holder, name, -, below, -, free⟩ := fileLocation_eq_ok_iff.mp found
  refine ⟨tree.set location (.file content (tree.writtenMode location newFileMode)),
    tree.writtenMode location newFileMode, ?_, .of_set free rfl, ?_⟩
  · simp only [write, found]
    rfl
  · rw [node?_set tree location location _ (by simp [below]), if_pos rfl]

theorem read_eq_ok_iff {tree : Tree} {path : Path} {content : Bytes} :
    tree.read path = .ok content ↔ ∃ mode, tree.find? path = some (.file content mode) := by
  cases located : tree.locate path with
  | error cause => simp [read, find?, located, bind, Except.bind]
  | ok location =>
      cases holds : tree.node? location with
      | none => simp [read, contentAt, find?, located, holds, bind, Except.bind, Except.mapError]
      | some node =>
          cases node <;> simp [read, contentAt, Node.content, find?, located, holds, bind,
            Except.bind, Except.mapError]

theorem find?_of_read_noEntry {tree : Tree} {path : Path}
    (missing : tree.read path = .error (.refused .noEntry)) : tree.find? path = none := by
  cases located : tree.locate path with
  | error cause => simp [find?, located]
  | ok location =>
      cases holds : tree.node? location with
      | none => simp [find?, located, holds]
      | some node =>
          have others : Os.Errno.isDirectory ≠ .noEntry ∧ Os.Errno.invalidArgument ≠ .noEntry := by
            decide
          cases node <;> simp [read, contentAt, Node.content, located, holds, bind, Except.bind,
            Except.mapError, others] at missing

theorem read_of_node? {tree : Tree} {path : Path} {location : Location} {content : Bytes}
    {mode : Nat} (found : tree.fileLocation path = .ok location)
    (node : tree.node? location = some (.file content mode)) : tree.read path = .ok content := by
  simp [read, contentAt, Node.content, locate_of_fileLocation found, node, bind, Except.bind,
    Except.mapError]

theorem read_of_write {tree after : Tree} {path : Path} {content : Bytes}
    (written : tree.write path content = .ok after) : after.read path = .ok content := by
  have steps := written
  simp only [write, bind, exceptBind_eq_ok_iff] at steps
  obtain ⟨location, found, -⟩ := steps
  obtain ⟨other, mode, again, same, node⟩ := write_of_fileLocation found content
  obtain rfl := Except.ok.inj (written.symm.trans again)
  exact read_of_node? (same.fileLocation found) node

theorem read_of_missing {tree : Tree} {path : Path} {location : Location}
    (found : tree.fileLocation path = .ok location) (missing : tree.node? location = none) :
    tree.read path = .error (.refused .noEntry) := by
  simp [read, locate_of_fileLocation found, missing, bind, Except.bind]

theorem read_of_spares {before after : Tree} {path : Path} {location : Location}
    (found : before.fileLocation path = .ok location) (spares : Spares location before after) :
    after.read path = before.read path := by
  have foundAfter := spares.directories.fileLocation found
  cases held : before.node? location with
  | none =>
      rw [read_of_missing found held, read_of_missing foundAfter (spares.node.trans held)]
  | some node =>
      simp [read, contentAt, locate_of_fileLocation found, locate_of_fileLocation foundAfter,
        spares.node, held, bind, Except.bind]

theorem splitOn_append {separator : Char} {ending : List Char}
    (plain : separator ∉ ending) (text : List Char) :
    ∃ front last, text.splitOn separator = front ++ [last] ∧
      (text ++ ending).splitOn separator = front ++ [last ++ ending] := by
  induction text with
  | nil => exact ⟨[], [], by simp, by simpa using List.splitOn_eq_singleton plain⟩
  | cons first rest ih =>
      obtain ⟨front, last, before, after⟩ := ih
      simp only [List.cons_append, List.splitOn_cons_eq_if_modifyHead, before, after]
      split
      · exact ⟨[] :: front, last, rfl, rfl⟩
      · cases front with
        | nil => exact ⟨[], first :: last, rfl, rfl⟩
        | cons head tail => exact ⟨(first :: head) :: tail, last, rfl, rfl⟩

/-- A path with something added to its last name leads to another file. -/
theorem fileLocation_appendName_ne {tree : Tree} {path : Path} {ending : String}
    {location other : Location} (nonempty : ending.toList ≠ []) (plain : '/' ∉ ending.toList)
    (found : tree.fileLocation path = .ok location)
    (otherFound : tree.fileLocation (path.appendName ending) = .ok other) : other ≠ location := by
  obtain ⟨-, holder, name, ⟨⟨front, parts, -⟩, -, -⟩, rfl, -, -⟩ := fileLocation_eq_ok_iff.mp found
  obtain ⟨-, otherHolder, otherName, ⟨⟨otherFront, otherParts, -⟩, -, -⟩, rfl, -, -⟩ :=
    fileLocation_eq_ok_iff.mp otherFound
  obtain ⟨texts, last, before, after⟩ := splitOn_append plain path.text.toList
  have names : name = String.ofList last ∧ otherName = String.ofList (last ++ ending.toList) := by
    simp only [Path.parts, Path.appendName, String.toList_append, before, after, List.map_append,
      List.map_cons, List.map_nil] at parts otherParts
    exact ⟨(List.singleton_inj.mp (List.append_inj' parts rfl).2).symm,
      (List.singleton_inj.mp (List.append_inj' otherParts rfl).2).symm⟩
  intro same
  have sameName := List.singleton_inj.mp (List.append_inj' same rfl).2
  rw [names.1, names.2, String.ofList_inj] at sameName
  exact nonempty (List.append_right_eq_self.mp sameName)

end OverlayNet.Files.Tree
