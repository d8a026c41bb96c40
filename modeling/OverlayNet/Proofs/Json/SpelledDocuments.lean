import Mathlib
import OverlayNet.Json.Document
import OverlayNet.Proofs.Json.TokenSpelling

set_option autoImplicit false

/-! # Spelled documents

The lexemes of a whole tree stand in one order only; blanks may stand anywhere among them. Bytes
hold a document with nothing broken off and nothing behind it exactly if they spell its tree so. -/

namespace OverlayNet.Json

/-- Groups of lexemes with a comma between any two. -/
def commaSeparated (groups : List (List Lexeme)) : List Lexeme :=
  [Lexeme.comma].intercalate groups

/-- Groups of lexemes with a comma behind each. -/
def commaTerminated (groups : List (List Lexeme)) : List Lexeme :=
  groups.flatMap (· ++ [.comma])

namespace Tree

mutual

/-- The lexemes of a tree, for a tree that is whole. -/
def lexemes : Tree → List Lexeme
  | .null => [.null]
  | .boolean value => [.boolean value]
  | .number numeral => [.number numeral]
  | .text pieces ending => [.text pieces ending]
  | .list items _ => .listOpen :: commaSeparated (itemLexemes items) ++ [.listClose]
  | .object members _ => .objectOpen :: commaSeparated (memberLexemes members) ++ [.objectClose]
  | _ => []

def itemLexemes : List Tree → List (List Lexeme)
  | [] => []
  | item :: rest => item.lexemes :: itemLexemes rest

def memberLexemes : List (List Piece × Tree) → List (List Lexeme)
  | [] => []
  | (key, value) :: rest =>
      (.text key .closed :: .colon :: value.lexemes) :: memberLexemes rest

end

/-- Whether nothing is broken off anywhere in a tree. -/
inductive Whole : Tree → Prop where
  | null : Whole .null
  | boolean (value : Bool) : Whole (.boolean value)
  | number (numeral : Numeral) : Whole (.number numeral)
  | text (pieces : List Piece) : Whole (.text pieces .closed)
  | list {items : List Tree} : (∀ item ∈ items, Whole item) → Whole (.list items .closed)
  | object {members : List (List Piece × Tree)} :
      (∀ member ∈ members, Whole member.2) → Whole (.object members .closed)

/-- Bytes that spell a whole tree, with any blanks before, between and behind its lexemes. -/
structure Spelled (tree : Tree) (bytes : Bytes) : Prop where
  whole : tree.Whole
  spaced : Spaced tree.lexemes bytes

end Tree

section Separation

theorem commaSeparated_cons_cons (first second : List Lexeme) (rest : List (List Lexeme)) :
    commaSeparated (first :: second :: rest) =
      first ++ .comma :: commaSeparated (second :: rest) := by
  simp [commaSeparated, List.intercalate]

theorem commaSeparated_singleton (group : List Lexeme) : commaSeparated [group] = group := by
  simp [commaSeparated, List.intercalate]

private theorem commaTerminated_append (first second : List (List Lexeme)) :
    commaTerminated (first ++ second) = commaTerminated first ++ commaTerminated second :=
  List.flatMap_append

private theorem commaSeparated_concat (groups : List (List Lexeme)) (last : List Lexeme) :
    commaSeparated (groups ++ [last]) = commaTerminated groups ++ last := by
  induction groups with
  | nil => exact commaSeparated_singleton last
  | cons first rest ih =>
      have front : commaSeparated (first :: (rest ++ [last])) =
          first ++ .comma :: commaSeparated (rest ++ [last]) := by
        cases rest with
        | nil => exact commaSeparated_cons_cons first last []
        | cons second rest => exact commaSeparated_cons_cons first second (rest ++ [last])
      rw [List.cons_append, front, ih, commaTerminated, commaTerminated, List.flatMap_cons,
        List.append_assoc, List.append_assoc]
      rfl

theorem itemLexemes_eq_map (items : List Tree) :
    Tree.itemLexemes items = items.map Tree.lexemes := by
  induction items with
  | nil => rfl
  | cons item rest ih => rw [Tree.itemLexemes, ih]; rfl

theorem memberLexemes_eq_map (members : List (List Piece × Tree)) :
    Tree.memberLexemes members =
      members.map fun member => .text member.1 .closed :: .colon :: member.2.lexemes := by
  induction members with
  | nil => rfl
  | cons member rest ih => rw [Tree.memberLexemes, ih]; rfl

end Separation

section Lexing

private theorem NumbersApart.append_mark {first rest : List Lexeme} {mark : Lexeme}
    (front : NumbersApart first) (noNumber : ¬ mark.IsNumber) (behind : NumbersApart rest) :
    NumbersApart (first ++ mark :: rest) := by
  apply List.isChain_append.mpr
  refine ⟨front, List.isChain_cons.mpr ⟨?_, behind⟩, ?_⟩
  · exact fun _ _ numbers => noNumber numbers.1
  · rintro last _ _ ⟨⟩ numbers
    exact noNumber numbers.2

private theorem numbersApart_singleton (lexeme : Lexeme) : NumbersApart [lexeme] :=
  List.isChain_singleton lexeme

private theorem numbersApart_commaSeparated {groups : List (List Lexeme)}
    (apart : ∀ group ∈ groups, NumbersApart group) : NumbersApart (commaSeparated groups) := by
  induction groups with
  | nil => exact List.isChain_nil
  | cons first rest ih =>
      have front := apart first List.mem_cons_self
      cases rest with
      | nil => rwa [commaSeparated_singleton]
      | cons second rest =>
          rw [commaSeparated_cons_cons]
          exact front.append_mark not_false
            (ih fun group member => apart group (List.mem_cons_of_mem first member))

private theorem NumbersApart.enclosed {lexemes : List Lexeme} (apart : NumbersApart lexemes)
    {first last : Lexeme} (noNumber : ¬ first.IsNumber) (noNumberLast : ¬ last.IsNumber) :
    NumbersApart (first :: lexemes ++ [last]) := by
  have opened : NumbersApart (first :: lexemes) :=
    NumbersApart.append_mark List.isChain_nil noNumber apart
  exact opened.append_mark noNumberLast List.isChain_nil

private theorem Tree.Whole.numbersApart {tree : Tree} (whole : tree.Whole) :
    NumbersApart tree.lexemes := by
  induction whole with
  | list _ ih =>
      refine NumbersApart.enclosed (numbersApart_commaSeparated ?_) not_false not_false
      rw [itemLexemes_eq_map]
      exact List.forall_mem_map.mpr ih
  | object _ ih =>
      refine NumbersApart.enclosed (numbersApart_commaSeparated ?_) not_false not_false
      rw [memberLexemes_eq_map]
      refine List.forall_mem_map.mpr fun member inside => ?_
      exact (numbersApart_singleton _).append_mark not_false (ih member inside)
  | _ => exact numbersApart_singleton _

private theorem whole_of_mem_commaSeparated {groups : List (List Lexeme)} {lexeme : Lexeme}
    (whole : ∀ group ∈ groups, ∀ lexeme ∈ group, lexeme.Whole)
    (member : lexeme ∈ commaSeparated groups) : lexeme.Whole := by
  induction groups with
  | nil => cases member
  | cons first rest ih =>
      have front := whole first List.mem_cons_self
      cases rest with
      | nil =>
          rw [commaSeparated_singleton] at member
          exact front lexeme member
      | cons second rest =>
          rw [commaSeparated_cons_cons, List.mem_append, List.mem_cons] at member
          obtain inFirst | rfl | behind := member
          · exact front lexeme inFirst
          · trivial
          · exact ih (fun group inside => whole group (List.mem_cons_of_mem first inside)) behind

private theorem Tree.Whole.of_mem_lexemes {tree : Tree} (whole : tree.Whole) {lexeme : Lexeme}
    (member : lexeme ∈ tree.lexemes) : lexeme.Whole := by
  induction whole generalizing lexeme with
  | @list items _ ih =>
      rw [lexemes, List.mem_append, List.mem_cons, List.mem_singleton] at member
      obtain (rfl | inside) | rfl := member
      · trivial
      · apply whole_of_mem_commaSeparated _ inside
        rw [itemLexemes_eq_map]
        exact List.forall_mem_map.mpr fun item inItems _ => ih item inItems
      · trivial
  | @object members _ ih =>
      rw [lexemes, List.mem_append, List.mem_cons, List.mem_singleton] at member
      obtain (rfl | inside) | rfl := member
      · trivial
      · apply whole_of_mem_commaSeparated _ inside
        rw [memberLexemes_eq_map]
        refine List.forall_mem_map.mpr fun member inMembers => ?_
        exact List.forall_mem_cons.mpr
          ⟨rfl, List.forall_mem_cons.mpr ⟨trivial, fun _ => ih member inMembers⟩⟩
      · trivial
  | text pieces =>
      obtain rfl := List.mem_singleton.mp member
      rfl
  | _ =>
      obtain rfl := List.mem_singleton.mp member
      trivial

/-- The bytes that spell a whole tree are read as its lexemes, and no others are. -/
theorem Tree.Whole.lexemes_eq_iff {tree : Tree} (whole : tree.Whole) {bytes : Bytes} :
    Json.lexemes bytes = tree.lexemes ↔ Spaced tree.lexemes bytes :=
  lexemes_eq_iff_spaced whole.numbersApart fun _ member => whole.of_mem_lexemes member

end Lexing

section Reading

/-- Whether the lexemes of a tree complete it where a value must stand. -/
def Tree.Completed (tree : Tree) : Prop :=
  ∀ (afterComma : Bool) (frames : List Frame) (rest : List Lexeme),
    (Progress.mk (.value afterComma) frames).run (tree.lexemes ++ rest) =
      (Progress.complete tree frames).run rest

-- No value starts with a closing bracket.
private theorem run_listStart {item : Tree} (whole : item.Whole) (items : List Tree)
    (frames : List Frame) (rest : List Lexeme) :
    (Progress.mk .listStart frames).run
        (commaSeparated (Tree.itemLexemes (item :: items)) ++ rest) =
      (Progress.mk (.value false) (.item [] :: frames)).run
        (commaSeparated (Tree.itemLexemes (item :: items)) ++ rest) := by
  cases items with
  | nil => cases whole <;> rfl
  | cons next items => cases whole <;> rfl

private theorem run_objectStart (member : List Piece × Tree) (members : List (List Piece × Tree))
    (frames : List Frame) (rest : List Lexeme) :
    (Progress.mk .objectStart frames).run
        (commaSeparated (Tree.memberLexemes (member :: members)) ++ rest) =
      (Progress.mk (.memberComma []) frames).run
        (commaSeparated (Tree.memberLexemes (member :: members)) ++ rest) := by
  cases members <;> rfl

private theorem run_items {item : Tree} {items : List Tree}
    (completed : ∀ other ∈ item :: items, other.Completed) (afterComma : Bool)
    (earlier : List Tree) (frames : List Frame) (rest : List Lexeme) :
    (Progress.mk (.value afterComma) (.item earlier :: frames)).run
        (commaSeparated (Tree.itemLexemes (item :: items)) ++ .listClose :: rest) =
      (Progress.complete (.list (earlier.reverse ++ item :: items) .closed) frames).run rest := by
  have first := completed item List.mem_cons_self
  induction items generalizing item afterComma earlier with
  | nil =>
      simp only [Tree.itemLexemes, commaSeparated_singleton]
      rw [first]
      simp only [← List.reverse_cons]
      rfl
  | cons next items ih =>
      have behind := ih (fun other inside => completed other (List.mem_cons_of_mem item inside))
        true (item :: earlier) (completed next (by simp))
      rw [List.reverse_cons, List.append_assoc] at behind
      simp only [Tree.itemLexemes, commaSeparated_cons_cons, List.append_assoc]
      rw [first]
      exact behind

private theorem run_members {member : List Piece × Tree} {members : List (List Piece × Tree)}
    (completed : ∀ other ∈ member :: members, other.2.Completed)
    (earlier : List (List Piece × Tree)) (frames : List Frame) (rest : List Lexeme) :
    (Progress.mk (.memberComma earlier) frames).run
        (commaSeparated (Tree.memberLexemes (member :: members)) ++ .objectClose :: rest) =
      (Progress.complete (.object (earlier.reverse ++ member :: members) .closed) frames).run
        rest := by
  induction members generalizing member earlier with
  | nil =>
      have first := completed member List.mem_cons_self false (.member earlier member.1 :: frames)
      simp only [Tree.memberLexemes, commaSeparated_singleton, ← List.reverse_cons]
      exact first (.objectClose :: rest)
  | cons next members ih =>
      have first := completed member List.mem_cons_self false (.member earlier member.1 :: frames)
      have behind := ih (fun other inside => completed other (List.mem_cons_of_mem member inside))
        (member :: earlier)
      rw [List.reverse_cons, List.append_assoc] at behind
      simp only [Tree.memberLexemes, commaSeparated_cons_cons, List.append_assoc]
      exact (first _).trans behind

private theorem Tree.Whole.completed {tree : Tree} (whole : tree.Whole) : tree.Completed := by
  induction whole with
  | @list items whole ih =>
      intro afterComma frames rest
      rw [lexemes, List.append_assoc]
      cases items with
      | nil => rfl
      | cons item items =>
          exact (run_listStart (whole item List.mem_cons_self) items frames _).trans
            (run_items ih false [] frames rest)
  | @object members _ ih =>
      intro afterComma frames rest
      rw [lexemes, List.append_assoc]
      cases members with
      | nil => rfl
      | cons member members =>
          exact (run_objectStart member members frames _).trans (run_members ih [] frames rest)
  | _ => exact fun _ _ _ => rfl

/-- However a tree is spelled, the document holds it, and nothing behind it. -/
theorem Tree.Spelled.document {tree : Tree} {bytes : Bytes} (spelled : tree.Spelled bytes) :
    Document.ofBytes bytes = ⟨tree, false⟩ := by
  have completed := spelled.whole.completed false [] []
  rw [List.append_nil] at completed
  rw [Document.ofBytes, spelled.whole.lexemes_eq_iff.mpr spelled.spaced]
  exact completed

end Reading

section Remembering

/-- The lexemes that lead into these frames. -/
def Frame.consumed : List Frame → List Lexeme
  | [] => []
  | .item earlier :: outer =>
      consumed outer ++ .listOpen :: commaTerminated (Tree.itemLexemes earlier.reverse)
  | .member earlier key :: outer =>
      consumed outer ++ .objectOpen :: commaTerminated (Tree.memberLexemes earlier.reverse) ++
        [.text key .closed, .colon]

/-- The lexemes that lead to a place inside its frames. -/
def Place.consumed : Place → List Lexeme
  | .value _ => []
  | .listStart => [.listOpen]
  | .item items => .listOpen :: commaSeparated (Tree.itemLexemes items.reverse)
  | .objectStart => [.objectOpen]
  | .memberComma members => .objectOpen :: commaTerminated (Tree.memberLexemes members.reverse)
  | .key members pieces =>
      .objectOpen :: commaTerminated (Tree.memberLexemes members.reverse) ++ [.text pieces .closed]
  | .member members => .objectOpen :: commaSeparated (Tree.memberLexemes members.reverse)
  | .whole tree => tree.lexemes

def Progress.consumed (progress : Progress) : List Lexeme :=
  Frame.consumed progress.frames ++ progress.place.consumed

def Frame.Whole : Frame → Prop
  | .item earlier => ∀ item ∈ earlier, item.Whole
  | .member earlier _ => ∀ member ∈ earlier, member.2.Whole

/-- Whether what has been read before a place is whole; before a comma there must be something. -/
def Place.Whole : Place → Prop
  | .item items => items ≠ [] ∧ ∀ item ∈ items, item.Whole
  | .memberComma members => ∀ member ∈ members, member.2.Whole
  | .key members _ => ∀ member ∈ members, member.2.Whole
  | .member members => members ≠ [] ∧ ∀ member ∈ members, member.2.Whole
  | .whole tree => tree.Whole
  | _ => True

structure Progress.Whole (progress : Progress) : Prop where
  place : progress.place.Whole
  frames : ∀ frame ∈ progress.frames, frame.Whole
  unframed : ∀ {tree}, progress.place = .whole tree → progress.frames = []

/-- Whether the top of a tree is finished: nothing is broken off there. -/
def Tree.Finished : Tree → Prop
  | .null => True
  | .boolean _ => True
  | .number _ => True
  | .text _ ending => ending = .closed
  | .list _ stop => stop = .closed
  | .object _ stop => stop = .closed
  | _ => False

/-- A document that breaks off is not finished, in whatever frames it breaks off. -/
theorem not_finished_enclose {tree : Tree} (unfinished : ¬ tree.Finished) (frames : List Frame) :
    ¬ (Frame.enclose frames tree).Finished := by
  induction frames generalizing tree with
  | nil => exact unfinished
  | cons frame outer ih =>
      cases frame with
      | item earlier => exact ih ListStop.noConfusion
      | member earlier key => exact ih ObjectStop.noConfusion

private theorem commaSeparated_comma {groups : List (List Lexeme)} (nonempty : groups ≠ []) :
    commaSeparated groups ++ [.comma] = commaTerminated groups := by
  obtain ⟨front, last, rfl⟩ := List.eq_nil_or_concat groups |>.resolve_left nonempty
  rw [List.concat_eq_append, commaSeparated_concat, commaTerminated_append, List.append_assoc]
  simp [commaTerminated]

private theorem complete_consumed (tree : Tree) (frames : List Frame) :
    (Progress.complete tree frames).consumed = Frame.consumed frames ++ tree.lexemes := by
  cases frames with
  | nil => rfl
  | cons frame outer =>
      cases frame with
      | item earlier =>
          simp [Progress.complete, Progress.consumed, Place.consumed, Frame.consumed,
            itemLexemes_eq_map, commaSeparated_concat]
      | member earlier key =>
          simp [Progress.complete, Progress.consumed, Place.consumed, Frame.consumed,
            memberLexemes_eq_map, commaSeparated_concat]

private theorem complete_whole {tree : Tree} {frames : List Frame} (whole : tree.Whole)
    (outer : ∀ frame ∈ frames, frame.Whole) : (Progress.complete tree frames).Whole := by
  cases frames with
  | nil => exact ⟨whole, outer, fun _ => rfl⟩
  | cons frame frames =>
      have inner := outer frame List.mem_cons_self
      have others : ∀ frame ∈ frames, frame.Whole :=
        fun other member => outer other (List.mem_cons_of_mem frame member)
      cases frame with
      | item earlier =>
          exact ⟨⟨List.cons_ne_nil tree earlier, List.forall_mem_cons.mpr ⟨whole, inner⟩⟩, others,
            nofun⟩
      | member earlier key =>
          exact ⟨⟨List.cons_ne_nil (key, tree) earlier,
            List.forall_mem_cons.mpr ⟨whole, inner⟩⟩, others, nofun⟩

/-- Progress that remembers one more lexeme than was consumed before. -/
structure Progress.Consumes (before : List Lexeme) (lexeme : Lexeme) (next : Progress) : Prop where
  whole : next.Whole
  consumed : next.consumed = before ++ [lexeme]

private theorem consumes_complete {tree : Tree} {frames : List Frame} {lexeme : Lexeme}
    (whole : tree.Whole) (outer : ∀ frame ∈ frames, frame.Whole) {before : List Lexeme}
    (same : Frame.consumed frames ++ tree.lexemes = before ++ [lexeme]) :
    Progress.Consumes before lexeme (Progress.complete tree frames) :=
  ⟨complete_whole whole outer, (complete_consumed tree frames).trans same⟩

private theorem consumes_readValue {frames : List Frame} {afterComma : Bool} {lexeme : Lexeme}
    {next : Progress} (outer : ∀ frame ∈ frames, frame.Whole)
    (read : Progress.readValue frames afterComma lexeme = .inl next) :
    Progress.Consumes (Frame.consumed frames) lexeme next := by
  cases lexeme with
  | objectOpen =>
      obtain rfl := Sum.inl.inj read
      exact ⟨⟨trivial, outer, nofun⟩, rfl⟩
  | listOpen =>
      obtain rfl := Sum.inl.inj read
      exact ⟨⟨trivial, outer, nofun⟩, rfl⟩
  | null =>
      obtain rfl := Sum.inl.inj read
      exact consumes_complete .null outer rfl
  | boolean value =>
      obtain rfl := Sum.inl.inj read
      exact consumes_complete (.boolean value) outer rfl
  | number numeral =>
      obtain rfl := Sum.inl.inj read
      exact consumes_complete (.number numeral) outer rfl
  | text pieces ending =>
      cases ending with
      | closed =>
          obtain rfl := Sum.inl.inj read
          exact consumes_complete (.text pieces) outer rfl
      | _ => cases read
  | _ => cases read

private theorem consumes_readKey {frames : List Frame} {members : List (List Piece × Tree)}
    {lexeme : Lexeme} {next : Progress} (outer : ∀ frame ∈ frames, frame.Whole)
    (earlier : ∀ member ∈ members, member.2.Whole)
    (read : Progress.readKey frames members lexeme = .inl next) :
    Progress.Consumes (Progress.mk (.memberComma members) frames).consumed lexeme next := by
  cases lexeme with
  | text pieces ending =>
      cases ending with
      | closed =>
          obtain rfl := Sum.inl.inj read
          refine ⟨⟨earlier, outer, nofun⟩, ?_⟩
          simp [Progress.consumed, Place.consumed]
      | _ => cases read
  | _ => cases read

section Advancing

variable {lexeme : Lexeme} {frames : List Frame}

private theorem advance_listStart (other : lexeme ≠ .listClose) :
    (Progress.mk .listStart frames).advance lexeme =
      Progress.readValue (.item [] :: frames) false lexeme := by
  cases lexeme <;> first | rfl | exact absurd rfl other

private theorem advance_objectStart (other : lexeme ≠ .objectClose) :
    (Progress.mk .objectStart frames).advance lexeme = Progress.readKey frames [] lexeme := by
  cases lexeme <;> first | rfl | exact absurd rfl other

private theorem advance_memberComma (other : lexeme ≠ .objectClose)
    {members : List (List Piece × Tree)} :
    (Progress.mk (.memberComma members) frames).advance lexeme =
      Progress.readKey frames members lexeme := by
  cases lexeme <;> first | rfl | exact absurd rfl other

end Advancing

/-- A step that does not end the document remembers the lexeme that it takes. -/
theorem Progress.Whole.consumes {progress next : Progress} {lexeme : Lexeme}
    (whole : progress.Whole) (advanced : progress.advance lexeme = .inl next) :
    next.Consumes progress.consumed lexeme := by
  obtain ⟨place, frames⟩ := progress
  obtain ⟨placed, outer, -⟩ := whole
  cases place with
  | value afterComma =>
      have consumes := consumes_readValue outer advanced
      rwa [← List.append_nil (Frame.consumed frames)] at consumes
  | listStart =>
      have none : ∀ item ∈ ([] : List Tree), item.Whole := nofun
      have inner : ∀ frame ∈ Frame.item [] :: frames, frame.Whole :=
        List.forall_mem_cons.mpr ⟨none, outer⟩
      by_cases close : lexeme = .listClose
      · subst close
        obtain rfl := Sum.inl.inj advanced
        refine consumes_complete (.list none) outer ?_
        simp [Progress.consumed, Place.consumed, Tree.lexemes, Tree.itemLexemes, commaSeparated]
      · rw [advance_listStart close] at advanced
        exact consumes_readValue inner advanced
  | item items =>
      obtain ⟨nonempty, earlier⟩ := placed
      cases lexeme with
      | comma =>
          obtain rfl := Sum.inl.inj advanced
          refine ⟨⟨trivial, List.forall_mem_cons.mpr ⟨earlier, outer⟩, nofun⟩, ?_⟩
          have groups : Tree.itemLexemes items.reverse ≠ [] := by
            simpa [itemLexemes_eq_map] using nonempty
          simp [Progress.consumed, Place.consumed, Frame.consumed, ← commaSeparated_comma groups]
      | listClose =>
          obtain rfl := Sum.inl.inj advanced
          refine consumes_complete (.list fun item member => ?_) outer ?_
          · exact earlier item (List.mem_reverse.mp member)
          · simp [Progress.consumed, Place.consumed, Tree.lexemes]
      | _ => cases advanced
  | objectStart =>
      have none : ∀ member ∈ ([] : List (List Piece × Tree)), member.2.Whole := nofun
      by_cases close : lexeme = .objectClose
      · subst close
        obtain rfl := Sum.inl.inj advanced
        refine consumes_complete (.object none) outer ?_
        simp [Progress.consumed, Place.consumed, Tree.lexemes, Tree.memberLexemes, commaSeparated]
      · rw [advance_objectStart close] at advanced
        exact consumes_readKey outer none advanced
  | memberComma members =>
      by_cases close : lexeme = .objectClose
      · subst close
        cases advanced
      · rw [advance_memberComma close] at advanced
        exact consumes_readKey outer placed advanced
  | key members key =>
      cases lexeme with
      | colon =>
          obtain rfl := Sum.inl.inj advanced
          refine ⟨⟨trivial, List.forall_mem_cons.mpr ⟨placed, outer⟩, nofun⟩, ?_⟩
          simp [Progress.consumed, Place.consumed, Frame.consumed]
      | _ => cases advanced
  | member members =>
      obtain ⟨nonempty, earlier⟩ := placed
      cases lexeme with
      | comma =>
          obtain rfl := Sum.inl.inj advanced
          refine ⟨⟨earlier, outer, nofun⟩, ?_⟩
          have groups : Tree.memberLexemes members.reverse ≠ [] := by
            simpa [memberLexemes_eq_map] using nonempty
          simp [Progress.consumed, Place.consumed, ← commaSeparated_comma groups]
      | objectClose =>
          obtain rfl := Sum.inl.inj advanced
          refine consumes_complete (.object fun member inside => ?_) outer ?_
          · exact earlier member (List.mem_reverse.mp inside)
          · simp [Progress.consumed, Place.consumed, Tree.lexemes]
      | _ => cases advanced
  | whole tree => cases advanced

theorem not_finished_of_broken {frames : List Frame} {broken : Tree} {document : Document}
    (ended : Progress.broken frames broken = document) (unfinished : ¬ broken.Finished) :
    ¬ document.tree.Finished := by
  rw [← ended]
  exact not_finished_enclose unfinished frames

private theorem not_finished_readValue {frames : List Frame} {afterComma : Bool} {lexeme : Lexeme}
    {document : Document} (read : Progress.readValue frames afterComma lexeme = .inr document) :
    ¬ document.tree.Finished := by
  cases lexeme with
  | text pieces ending =>
      cases ending with
      | closed => cases read
      | _ => exact not_finished_of_broken (Sum.inr.inj read) Ending.noConfusion
  | listClose => cases afterComma <;> exact not_finished_of_broken (Sum.inr.inj read) id
  | objectOpen => cases read
  | listOpen => cases read
  | null => cases read
  | boolean value => cases read
  | number numeral => cases read
  | _ => exact not_finished_of_broken (Sum.inr.inj read) id

private theorem not_finished_readKey {frames : List Frame} {members : List (List Piece × Tree)}
    {lexeme : Lexeme} {document : Document}
    (read : Progress.readKey frames members lexeme = .inr document) :
    ¬ document.tree.Finished := by
  cases lexeme with
  | text pieces ending =>
      cases ending with
      | closed => cases read
      | _ => exact not_finished_of_broken (Sum.inr.inj read) ObjectStop.noConfusion
  | _ => exact not_finished_of_broken (Sum.inr.inj read) ObjectStop.noConfusion

/-- A step that ends the document with nothing behind it leaves its tree unfinished. -/
theorem not_finished_of_advance {progress : Progress} {lexeme : Lexeme} {tree : Tree}
    (advanced : progress.advance lexeme = .inr ⟨tree, false⟩) : ¬ tree.Finished := by
  obtain ⟨place, frames⟩ := progress
  cases place with
  | value afterComma => exact not_finished_readValue advanced
  | listStart =>
      by_cases close : lexeme = .listClose
      · subst close
        cases advanced
      · rw [advance_listStart close] at advanced
        exact not_finished_readValue advanced
  | item items =>
      cases lexeme with
      | comma => cases advanced
      | listClose => cases advanced
      | _ => exact not_finished_of_broken (Sum.inr.inj advanced) ListStop.noConfusion
  | objectStart =>
      by_cases close : lexeme = .objectClose
      · subst close
        cases advanced
      · rw [advance_objectStart close] at advanced
        exact not_finished_readKey advanced
  | memberComma members =>
      by_cases close : lexeme = .objectClose
      · subst close
        exact not_finished_of_broken (Sum.inr.inj advanced) ObjectStop.noConfusion
      · rw [advance_memberComma close] at advanced
        exact not_finished_readKey advanced
  | key members key =>
      cases lexeme with
      | colon => cases advanced
      | _ => exact not_finished_of_broken (Sum.inr.inj advanced) ObjectStop.noConfusion
  | member members =>
      cases lexeme with
      | comma => cases advanced
      | objectClose => cases advanced
      | _ => exact not_finished_of_broken (Sum.inr.inj advanced) ObjectStop.noConfusion
  | whole tree => cases advanced

private theorem place_of_finish {progress : Progress} {tree : Tree}
    (ended : progress.finish = ⟨tree, false⟩) (finished : tree.Finished) :
    progress.place = .whole tree := by
  obtain ⟨place, frames⟩ := progress
  cases place with
  | whole other => exact congrArg Place.whole (congrArg Document.tree ended)
  | value afterComma => exact absurd finished (not_finished_of_broken ended id)
  | listStart => exact absurd finished (not_finished_of_broken ended ListStop.noConfusion)
  | item items => exact absurd finished (not_finished_of_broken ended ListStop.noConfusion)
  | _ => exact absurd finished (not_finished_of_broken ended ObjectStop.noConfusion)

/-- A finished tree with nothing behind it is whole, and its lexemes are those that were read. -/
theorem Progress.Whole.of_run {progress : Progress} (whole : progress.Whole)
    {remaining : List Lexeme} {tree : Tree} (ran : progress.run remaining = ⟨tree, false⟩)
    (finished : tree.Finished) :
    tree.Whole ∧ tree.lexemes = progress.consumed ++ remaining := by
  induction remaining generalizing progress with
  | nil =>
      have place := place_of_finish ran finished
      have placed := whole.place
      rw [place] at placed
      refine ⟨placed, ?_⟩
      rw [consumed, whole.unframed place, place, List.append_nil]
      rfl
  | cons lexeme remaining ih =>
      rw [run] at ran
      split at ran
      · rename_i next advanced
        have consumes := whole.consumes advanced
        obtain ⟨treeWhole, same⟩ := ih consumes.whole ran
        rw [consumes.consumed, List.append_assoc] at same
        exact ⟨treeWhole, same⟩
      · rename_i document advanced
        subst ran
        exact absurd finished (not_finished_of_advance advanced)

/-- Bytes hold a finished document with nothing behind it exactly if they spell its tree. -/
theorem spelled_iff {tree : Tree} {bytes : Bytes} :
    tree.Spelled bytes ↔ Document.ofBytes bytes = ⟨tree, false⟩ ∧ tree.Finished := by
  constructor
  · intro spelled
    refine ⟨spelled.document, ?_⟩
    cases spelled.whole <;> trivial
  · rintro ⟨held, finished⟩
    have start : Progress.start.Whole := ⟨trivial, nofun, nofun⟩
    obtain ⟨whole, same⟩ := start.of_run held finished
    exact ⟨whole, whole.lexemes_eq_iff.mp same.symm⟩

end Remembering

end OverlayNet.Json
