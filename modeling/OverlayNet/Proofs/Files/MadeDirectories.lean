import Mathlib
import OverlayNet.Proofs.Files.WritableLocations

set_option autoImplicit false

/-! # Making directories

A directory is made together with those above it. Whether or not that succeeds, directories are
added where the path and the ways to the directories above it lead, and whatever was there before
is there still. -/

namespace OverlayNet.Files.Tree

open OverlayNet.Os (Errno)

/-- Whether all that a tree has is in another one too: directories as directories. -/
structure Within (before after : Tree) : Prop where
  current : after.current = before.current
  directories : ∀ location, before.isDirectory location = true → after.isDirectory location = true
  present : ∀ location, before.node? location ≠ none → after.node? location ≠ none

namespace Within

variable {before after : Tree}

theorem origin (inside : Within before after) (parts : List String) :
    after.origin parts = before.origin parts := by
  rw [Tree.origin, Tree.origin, inside.current]

/-- A way stays open. -/
theorem step (inside : Within before after) {location next : Location} {part : String}
    (stepped : before.step location part = .ok next) : after.step location part = .ok next := by
  cases held : before.isDirectory location with
  | false => simp [Tree.step, held] at stepped
  | true =>
      have heldAfter := inside.directories location held
      simp only [Tree.step, held, heldAfter, Bool.not_true, Bool.false_eq_true, if_false]
        at stepped ⊢
      cases there : before.node? (location ++ [part]) with
      | none =>
          -- Whatever the part is, it does not lead further down.
          simp only [there, Option.isNone_none, if_true] at stepped
          split at stepped
          · rwa [if_pos ‹_›]
          · split at stepped
            · rwa [if_neg ‹_›, if_pos ‹_›]
            · split at stepped <;> cases stepped
      | some node =>
          have thereAfter := inside.present (location ++ [part]) (there ▸ Option.some_ne_none node)
          simp only [there, Option.isNone_some, Bool.false_eq_true, if_false] at stepped
          simpa only [Option.isNone_iff_eq_none, thereAfter, if_false] using stepped

theorem walk (inside : Within before after) {location place : Location} {parts : List String}
    (walked : before.walk location parts = .ok place) : after.walk location parts = .ok place := by
  induction parts generalizing location with
  | nil => exact walked
  | cons part rest ih =>
      simp only [Tree.walk, bind, exceptBind_eq_ok_iff] at walked
      obtain ⟨next, stepped, walked⟩ := walked
      simp only [Tree.walk, inside.step stepped]
      exact ih walked

theorem locate (inside : Within before after) {path : Path} {place : Location}
    (located : before.locate path = .ok place) : after.locate path = .ok place := by
  simp only [Tree.locate, bind, exceptBind_eq_ok_iff, exceptMapError_eq_ok_iff] at located ⊢
  obtain ⟨_, checked, walked⟩ := located
  exact ⟨_, checked, inside.origin path.parts ▸ inside.walk walked⟩

theorem leadsToDirectory (inside : Within before after) {parts : List String}
    (leads : before.leadsToDirectory parts = true) : after.leadsToDirectory parts = true := by
  simp only [Tree.leadsToDirectory] at leads ⊢
  cases walked : before.walk (before.origin parts) parts with
  | error refusal => simp [walked] at leads
  | ok place =>
      rw [walked] at leads
      rw [inside.origin, inside.walk walked]
      exact inside.directories place leads

end Within

/-- Something put where nothing was, or a file in place of what is no directory. -/
theorem within_set {tree : Tree} {location : Location} {node : Node}
    (free : tree.isDirectory location = false) : Within tree (tree.set location node) := by
  have below : location ≠ [] := by
    intro root
    rw [root] at free
    cases free
  constructor
  case current => rfl
  case directories =>
    intro other held
    have different : other ≠ location := by
      intro same
      rw [same, free] at held
      cases held
    rw [isDirectory, node?_set tree location other node below, if_neg different]
    exact held
  case present =>
    intro other there
    rw [node?_set tree location other node below]
    split
    · exact Option.some_ne_none node
    · exact there

/-- The place of an entry is found by walking to the directory that holds it, and by its name. -/
theorem place_entry {tree : Tree} {parts : List String} {location : Location} {slash : Bool}
    (placed : tree.place parts = .ok (.entry location slash)) :
    ∃ front name slashes holder, parts = front ++ name :: slashes ∧ (∀ part ∈ slashes, part = "") ∧
      name ≠ "" ∧ name ≠ "." ∧ name ≠ ".." ∧
      tree.walk (tree.origin parts) front = .ok holder ∧ tree.isDirectory holder = true ∧
      location = holder ++ [name] := by
  have split := List.takeWhile_append_dropWhile (p := (· = "")) (l := parts.reverse)
  simp only [place] at placed
  cases kept : parts.reverse.dropWhile (· = "") with
  | nil => simp [kept] at placed
  | cons name front =>
      have named : name ≠ "" := by
        have head := List.head?_dropWhile_not (· = "") parts.reverse
        rw [kept] at head
        simpa using head
      rw [kept] at placed split
      simp only [List.reverse_cons, List.getLast?_append, List.getLast?_singleton, Option.some_or,
        List.dropLast_concat, bind, exceptBind_eq_ok_iff] at placed
      obtain ⟨holder, walked, placed⟩ := placed
      cases held : tree.isDirectory holder with
      | false => simp [held] at placed
      | true =>
          by_cases dots : name = "." ∨ name = ".."
          · simp [held, dots] at placed
          · simp only [held, dots, Bool.not_true, Bool.false_eq_true, if_false, Except.ok.injEq,
              Place.entry.injEq] at placed
            refine ⟨front.reverse, name, (parts.reverse.takeWhile (· = "")).reverse, holder, ?_, ?_,
              named, fun dot => dots (.inl dot), fun dot => dots (.inr dot), walked, held,
              placed.1.symm⟩
            · have joined := congrArg List.reverse split
              simp only [List.reverse_append, List.reverse_cons, List.reverse_reverse,
                List.append_assoc, List.singleton_append] at joined
              exact joined.symm
            · intro part member
              simpa using List.mem_takeWhile_imp (List.mem_reverse.mp member)

private theorem walk_of_slashes {tree : Tree} {location : Location} {slashes : List String}
    (held : tree.isDirectory location = true) (empty : ∀ part ∈ slashes, part = "") :
    tree.walk location slashes = .ok location := by
  induction slashes with
  | nil => rfl
  | cons part rest ih =>
      have stays : tree.step location part = .ok location := by
        simp [step, held, empty part List.mem_cons_self]
      simp only [walk, stays]
      exact ih fun other member => empty other (List.mem_cons_of_mem part member)

/-- Whether a location holds what it held, or held nothing and is now a directory to which one of
the ways leads. -/
def SameOrAdded (ways : List (List String)) (before after : Tree) (location : Location) : Prop :=
  after.node? location = before.node? location ∨
    before.node? location = none ∧ after.node? location = some (.directory newDirectoryMode) ∧
      ∃ parts ∈ ways, after.walk (after.origin parts) parts = .ok location

/-- Whether directories have been added where some of the ways lead, and nothing else has
changed. -/
structure Added (ways : List (List String)) (before after : Tree) : Prop where
  current : after.current = before.current
  node : ∀ location, SameOrAdded ways before after location

namespace Added

variable {ways others : List (List String)} {before after last : Tree}

theorem refl (ways : List (List String)) (tree : Tree) : Added ways tree tree :=
  ⟨rfl, fun _ => .inl rfl⟩

/-- What was there is there still. -/
theorem kept (added : Added ways before after) {location : Location} {node : Node}
    (there : before.node? location = some node) : after.node? location = some node := by
  cases added.node location with
  | inl same => rw [same, there]
  | inr new =>
      rw [new.1] at there
      cases there

theorem within (added : Added ways before after) : Within before after := by
  constructor
  case current => exact added.current
  case directories =>
    intro location held
    cases there : before.node? location with
    | none => simp [isDirectory, there] at held
    | some node =>
        simp only [isDirectory, there] at held
        simpa only [isDirectory, added.kept there] using held
  case present =>
    intro location there
    obtain ⟨node, found⟩ := Option.ne_none_iff_exists'.mp there
    exact added.kept found ▸ Option.some_ne_none node

/-- Where nothing changes afterwards, there are still at most the directories that were added. -/
theorem sameOrAdded_of_same (added : Added ways before after) (inside : Within after last)
    {location : Location} (same : last.node? location = after.node? location) :
    SameOrAdded ways before last location := by
  rw [SameOrAdded, same]
  cases added.node location with
  | inl unchanged => exact .inl unchanged
  | inr new =>
      obtain ⟨missing, made, parts, member, leads⟩ := new
      refine .inr ⟨missing, made, parts, member, ?_⟩
      rw [inside.origin]
      exact inside.walk leads

theorem trans (first : Added ways before after) (second : Added ways after last) :
    Added ways before last := by
  refine ⟨second.current.trans first.current, fun location => ?_⟩
  cases second.node location with
  | inl same => exact first.sameOrAdded_of_same second.within same
  | inr new =>
      cases first.node location with
      | inl same => exact .inr ⟨same ▸ new.1, new.2⟩
      | inr earlier =>
          rw [new.1] at earlier
          cases earlier.2.1

theorem mono (added : Added ways before after) (more : ways ⊆ others) :
    Added others before after := by
  refine ⟨added.current, fun location => ?_⟩
  cases added.node location with
  | inl same => exact .inl same
  | inr new =>
      obtain ⟨missing, made, parts, member, leads⟩ := new
      exact .inr ⟨missing, made, parts, more member, leads⟩

/-- No file has come or gone. -/
theorem file_iff (added : Added ways before after) {location : Location} {content : Bytes}
    {mode : Nat} : after.node? location = some (.file content mode) ↔
      before.node? location = some (.file content mode) := by
  refine ⟨fun there => ?_, added.kept⟩
  cases added.node location with
  | inl same => rw [← same, there]
  | inr new =>
      rw [new.2.1] at there
      cases there

end Added

/-- A new directory stands where the parts lead, and nothing else has changed. -/
theorem makeDirectory_added {tree made : Tree} {parts : List String}
    (succeeded : tree.makeDirectory parts = .ok made) :
    Added [parts] tree made ∧ made.leadsToDirectory parts = true := by
  simp only [makeDirectory, bind, exceptBind_eq_ok_iff] at succeeded
  obtain ⟨place, placed, succeeded⟩ := succeeded
  cases place with
  | directory => cases succeeded
  | entry location slash =>
      obtain ⟨front, name, slashes, holder, joined, empty, nonempty, notDot, notDots, walked, held,
        rfl⟩ := place_entry placed
      simp only [List.getLast?_append, List.getLast?_singleton, Option.some_or,
        Option.getD_some] at succeeded
      split at succeeded
      · cases succeeded
      · split at succeeded
        · cases succeeded
        case isFalse short new =>
          have missing : tree.node? (holder ++ [name]) = none := by simpa using new
          have isMade := Except.ok.inj succeeded
          have node (other : Location) : made.node? other =
              if other = holder ++ [name] then some (.directory newDirectoryMode)
              else tree.node? other :=
            isMade ▸ node?_set tree _ other _ (by simp)
          have inside : Within tree made := isMade ▸ within_set (by rw [isDirectory, missing])
          have directory : made.isDirectory (holder ++ [name]) = true := by
            rw [isDirectory, node, if_pos rfl]
            rfl
          have stepped : made.step holder name = .ok (holder ++ [name]) := by
            simp [step, inside.directories holder held, nonempty, notDot, notDots, short, node]
          have leads : made.walk (made.origin parts) parts = .ok (holder ++ [name]) := by
            rw [inside.origin]
            nth_rewrite 2 [joined]
            rw [walk_append, inside.walk walked]
            simp only [Except.bind, walk, bind, stepped]
            exact walk_of_slashes directory empty
          refine ⟨⟨inside.current, fun other => ?_⟩, ?_⟩
          · by_cases same : other = holder ++ [name]
            · subst same
              refine .inr ⟨missing, ?_, parts, List.mem_singleton_self parts, leads⟩
              rw [node, if_pos rfl]
            · refine .inl ?_
              rw [node, if_neg same]
          · rw [leadsToDirectory, leads]
            exact directory

-- A refusal is overlooked only if the directory is there all the same.
private theorem leadsToDirectory_of_overlooked {tree : Tree} {parts : List String} {refusal : Errno}
    (overlooked : (if tree.leadsToDirectory parts then Except.ok () else .error refusal) = .ok ()) :
    tree.leadsToDirectory parts = true := by
  split at overlooked
  · assumption
  · cases overlooked

private theorem makeDirectories_added (tree : Tree) (ways : List (List String)) :
    Added ways tree (tree.makeDirectories ways).2 ∧
      ((tree.makeDirectories ways).1 = .ok () → ∀ parts ∈ ways.head?,
        (tree.makeDirectories ways).2.leadsToDirectory parts = true) := by
  induction ways with
  | nil => exact ⟨.refl [] tree, fun _ parts none => nomatch none⟩
  | cons parts above ih =>
      have own : [parts] ⊆ parts :: above := by simp
      have further : above ⊆ parts :: above := List.subset_cons_self parts above
      rw [makeDirectories]
      cases made : tree.makeDirectory parts with
      | ok made =>
          obtain ⟨added, leads⟩ := makeDirectory_added made
          refine ⟨added.mono own, fun _ other first => ?_⟩
          obtain rfl := Option.some.inj first
          exact leads
      | error refusal =>
          by_cases missing : refusal = .noEntry
          · simp only [missing, if_true]
            rcases attempted : tree.makeDirectories above with ⟨outcome, prepared⟩
            rw [attempted] at ih
            cases outcome with
            | error cause => exact ⟨ih.1.mono further, fun done => nomatch done⟩
            | ok done =>
                cases again : prepared.makeDirectory parts with
                | ok made =>
                    obtain ⟨added, leads⟩ := makeDirectory_added again
                    simp only [again]
                    refine ⟨(ih.1.mono further).trans (added.mono own), fun _ other first => ?_⟩
                    obtain rfl := Option.some.inj first
                    exact leads
                | error cause =>
                    simp only [again]
                    refine ⟨ih.1.mono further, fun overlooked other first => ?_⟩
                    obtain rfl := Option.some.inj first
                    exact leadsToDirectory_of_overlooked overlooked
          · simp only [missing, if_false]
            refine ⟨.refl _ tree, fun overlooked other first => ?_⟩
            obtain rfl := Option.some.inj first
            exact leadsToDirectory_of_overlooked overlooked

end OverlayNet.Files.Tree

namespace OverlayNet

/-- The parts of a path, and the ways to the directories above it. -/
def Path.ways (path : Path) : List (List String) :=
  path.parts :: path.above

namespace Files.Tree

/-- Making a directory adds it, and those above it that were missing. -/
theorem ensureDirectory_added (tree : Tree) (path : Path) :
    Added path.ways tree (tree.ensureDirectory path).2 ∧
      ((tree.ensureDirectory path).1 = .ok () → path.text ≠ "" →
        (tree.ensureDirectory path).2.leadsToDirectory path.parts = true) := by
  rw [ensureDirectory]
  by_cases empty : path.text = ""
  · have isEmpty : path.text.isEmpty = true := by simpa using empty
    rw [if_pos isEmpty]
    exact ⟨.refl _ tree, fun _ nonempty => absurd empty nonempty⟩
  · have nonempty : path.text.isEmpty = false := by simpa using empty
    simp only [nonempty, Bool.false_eq_true, if_false]
    cases checked : checkPath path with
    | error cause => exact ⟨.refl _ tree, fun done => nomatch done⟩
    | ok _ =>
        obtain ⟨added, leads⟩ := tree.makeDirectories_added path.ways
        refine ⟨added, fun done _ => leads ?_ path.parts rfl⟩
        exact exceptMapError_eq_ok_iff.mp done

end Files.Tree

end OverlayNet
