import Mathlib
import OverlayNet.Proofs.Json.SpelledDocuments
import OverlayNet.Proofs.Json.WrittenLexemes

set_option autoImplicit false

/-! # Written documents

A value can be laid out with any blanks between its lexemes. Each layout spells the tree of the
value, and both forms in which values are written are layouts. -/

namespace OverlayNet.Json

open Bytes (encoded)

/-- Whether all of the characters are such as may stand between lexemes. -/
def Blank (characters : List Char) : Prop :=
  ∀ character ∈ characters, character ∈ [' ', '\n', '\r', '\t']

theorem Blank.spaced {blank : List Char} (allBlank : Blank blank) {lexemes : List Lexeme}
    {rest : Bytes} (spaced : Spaced lexemes rest) : Spaced lexemes (encoded blank ++ rest) := by
  induction blank with
  | nil => exact spaced
  | cons character blank ih =>
      have member := allBlank character List.mem_cons_self
      have behind := ih fun other inside => allBlank other (List.mem_cons_of_mem character inside)
      simp only [List.mem_cons, List.not_mem_nil, or_false] at member
      rcases member with rfl | rfl | rfl | rfl <;> exact .blank (by decide) behind

mutual

/-- How the characters of a value may be laid out. -/
inductive Layout : Json → List Char → Prop where
  | null : Layout .null "null".toList
  | boolean (value : Bool) : Layout (.boolean value) (writtenBoolean value)
  | number (value : Nat) : Layout (.number value) (Decimal.digits value)
  | text (value : String) : Layout (.text value) (writtenText value)
  | list {items : List Json} {characters blank : List Char} :
      ItemsLayout items characters → Blank blank →
      Layout (.list items) ('[' :: characters ++ blank ++ [']'])
  | object {members : List (String × Json)} {characters blank : List Char} :
      MembersLayout members characters → Blank blank →
      Layout (.object members) ('\x7b' :: characters ++ blank ++ ['\x7d'])

inductive ItemsLayout : List Json → List Char → Prop where
  | none : ItemsLayout [] []
  | last {item : Json} {blank characters : List Char} :
      Blank blank → Layout item characters → ItemsLayout [item] (blank ++ characters)
  | more {item next : Json} {rest : List Json} {blank characters others : List Char} :
      Blank blank → Layout item characters → ItemsLayout (next :: rest) others →
      ItemsLayout (item :: next :: rest) (blank ++ characters ++ ',' :: others)

inductive MembersLayout : List (String × Json) → List Char → Prop where
  | none : MembersLayout [] []
  | last {key : String} {value : Json} {blank gap characters : List Char} :
      Blank blank → Blank gap → Layout value characters →
      MembersLayout [(key, value)] (blank ++ writtenText key ++ ':' :: (gap ++ characters))
  | more {key : String} {value : Json} {next : String × Json} {rest : List (String × Json)}
      {blank gap characters others : List Char} :
      Blank blank → Blank gap → Layout value characters → MembersLayout (next :: rest) others →
      MembersLayout ((key, value) :: next :: rest)
        (blank ++ writtenText key ++ ':' :: (gap ++ characters) ++ ',' :: others)

end

section Layouts

theorem blank_nil : Blank [] :=
  fun _ member => nomatch member

private theorem blank_singleton {character : Char} (blank : character ∈ [' ', '\n', '\r', '\t']) :
    Blank [character] := by
  intro other member
  rwa [List.mem_singleton.mp member]

theorem blank_indentation (level : Nat) : Blank (indentation level) := by
  intro character member
  rcases List.mem_cons.mp member with rfl | spaces
  · simp
  · simp [List.eq_of_mem_replicate spaces]

mutual

theorem layout_compact : (value : Json) → Layout value value.compactCharacters
  | .null => .null
  | .boolean value => .boolean value
  | .number value => .number value
  | .text value => .text value
  | .list items => by
      have laidOut := Layout.list (itemsLayout_compact items) blank_nil
      rwa [List.append_nil] at laidOut
  | .object members => by
      have laidOut := Layout.object (membersLayout_compact members) blank_nil
      rwa [List.append_nil] at laidOut

theorem itemsLayout_compact : (items : List Json) → ItemsLayout items (compactItems items)
  | [] => .none
  | [item] => .last blank_nil (layout_compact item)
  | item :: next :: rest =>
      .more blank_nil (layout_compact item) (itemsLayout_compact (next :: rest))

theorem membersLayout_compact : (members : List (String × Json)) →
    MembersLayout members (compactMembers members)
  | [] => .none
  | [(_, value)] => .last blank_nil blank_nil (layout_compact value)
  | (_, value) :: next :: rest =>
      .more blank_nil blank_nil (layout_compact value) (membersLayout_compact (next :: rest))

end

mutual

theorem layout_pretty (level : Nat) : (value : Json) → Layout value (value.prettyCharacters level)
  | .null => .null
  | .boolean value => .boolean value
  | .number value => .number value
  | .text value => .text value
  | .list [] => .list .none blank_nil
  | .list (item :: rest) =>
      .list (itemsLayout_pretty (level + 1) (item :: rest)) (blank_indentation level)
  | .object [] => .object .none blank_nil
  | .object (member :: rest) =>
      .object (membersLayout_pretty (level + 1) (member :: rest)) (blank_indentation level)

theorem itemsLayout_pretty (level : Nat) : (items : List Json) →
    ItemsLayout items (prettyItems level items)
  | [] => .none
  | [item] => .last (blank_indentation level) (layout_pretty level item)
  | item :: next :: rest =>
      .more (blank_indentation level) (layout_pretty level item)
        (itemsLayout_pretty level (next :: rest))

theorem membersLayout_pretty (level : Nat) : (members : List (String × Json)) →
    MembersLayout members (prettyMembers level members)
  | [] => .none
  | [(_, value)] =>
      .last (blank_indentation level) (blank_singleton (by decide)) (layout_pretty level value)
  | (_, value) :: next :: rest =>
      .more (blank_indentation level) (blank_singleton (by decide)) (layout_pretty level value)
        (membersLayout_pretty level (next :: rest))

end

end Layouts

section Trees

mutual

/-- The tree as which a value is read. -/
def tree : Json → Tree
  | .null => .null
  | .boolean value => .boolean value
  | .number value => .number (.ofNatural value)
  | .text value => .text (textPieces value) .closed
  | .list items => .list (itemTrees items) .closed
  | .object members => .object (memberTrees members) .closed

def itemTrees : List Json → List Tree
  | [] => []
  | item :: rest => tree item :: itemTrees rest

def memberTrees : List (String × Json) → List (List Piece × Tree)
  | [] => []
  | (key, value) :: rest => (textPieces key, tree value) :: memberTrees rest

end

mutual

theorem whole_tree : (value : Json) → (tree value).Whole
  | .null => .null
  | .boolean value => .boolean value
  | .number value => .number (.ofNatural value)
  | .text value => .text (textPieces value)
  | .list items => .list (whole_of_mem_itemTrees items)
  | .object members => .object (whole_of_mem_memberTrees members)

theorem whole_of_mem_itemTrees : (items : List Json) → ∀ item ∈ itemTrees items, item.Whole
  | [] => nofun
  | value :: rest => List.forall_mem_cons.mpr ⟨whole_tree value, whole_of_mem_itemTrees rest⟩

theorem whole_of_mem_memberTrees :
    (members : List (String × Json)) → ∀ member ∈ memberTrees members, member.2.Whole
  | [] => nofun
  | (_, value) :: rest =>
      List.forall_mem_cons.mpr ⟨whole_tree value, whole_of_mem_memberTrees rest⟩

end

private theorem spaced_key {blank gap : List Char} (blankBefore : Blank blank)
    (blankBehind : Blank gap)
    (key : String) {lexemes : List Lexeme} {rest : Bytes} (spaced : Spaced lexemes rest) :
    Spaced (.text (textPieces key) .closed :: .colon :: lexemes)
      (encoded blank ++ (encoded (writtenText key) ++
        (String.utf8EncodeChar ':' ++ (encoded gap ++ rest)))) :=
  blankBefore.spaced
    (.lexeme (spelled_writtenText key) (.lexeme .colon (blankBehind.spaced spaced)))

mutual

/-- However a value is laid out, it spells the lexemes of its tree. -/
theorem Layout.spaced_append {value : Json} {characters : List Char}
    (layout : Layout value characters) {more : List Lexeme} {rest : Bytes}
    (spaced : Spaced more rest) :
    Spaced ((tree value).lexemes ++ more) (encoded characters ++ rest) := by
  cases layout with
  | null => exact .lexeme .null spaced
  | boolean value => exact .lexeme (spelled_writtenBoolean value) spaced
  | number value => exact .lexeme (spelled_digits value) spaced
  | text value => exact .lexeme (spelled_writtenText value) spaced
  | list items blank =>
      have close := blank.spaced (.lexeme .listClose spaced)
      simp only [List.cons_append, Bytes.encoded_cons, Bytes.encoded_append, Bytes.encoded_nil,
        List.append_assoc, List.nil_append, tree, Tree.lexemes]
      exact .lexeme .listOpen (items.spaced_append close)
  | object members blank =>
      have close := blank.spaced (.lexeme .objectClose spaced)
      simp only [List.cons_append, Bytes.encoded_cons, Bytes.encoded_append, Bytes.encoded_nil,
        List.append_assoc, List.nil_append, tree, Tree.lexemes]
      exact .lexeme .objectOpen (members.spaced_append close)

theorem ItemsLayout.spaced_append {items : List Json} {characters : List Char}
    (layout : ItemsLayout items characters) {more : List Lexeme} {rest : Bytes}
    (spaced : Spaced more rest) :
    Spaced (commaSeparated (Tree.itemLexemes (itemTrees items)) ++ more)
      (encoded characters ++ rest) := by
  cases layout with
  | none => exact spaced
  | last blank item =>
      simp only [Bytes.encoded_append, List.append_assoc, itemTrees, Tree.itemLexemes,
        commaSeparated_singleton]
      exact blank.spaced (item.spaced_append spaced)
  | more blank item others =>
      have behind := others.spaced_append spaced
      simp only [Bytes.encoded_append, Bytes.encoded_cons, List.append_assoc, itemTrees,
        Tree.itemLexemes, commaSeparated_cons_cons, List.cons_append] at behind ⊢
      exact blank.spaced (item.spaced_append (.lexeme .comma behind))

theorem MembersLayout.spaced_append {members : List (String × Json)} {characters : List Char}
    (layout : MembersLayout members characters) {more : List Lexeme} {rest : Bytes}
    (spaced : Spaced more rest) :
    Spaced (commaSeparated (Tree.memberLexemes (memberTrees members)) ++ more)
      (encoded characters ++ rest) := by
  cases layout with
  | none => exact spaced
  | last blank gap value =>
      simp only [Bytes.encoded_append, Bytes.encoded_cons, List.append_assoc, memberTrees,
        Tree.memberLexemes, commaSeparated_singleton, List.cons_append]
      exact spaced_key blank gap _ (value.spaced_append spaced)
  | more blank gap value others =>
      have behind := others.spaced_append spaced
      simp only [Bytes.encoded_append, Bytes.encoded_cons, List.append_assoc, memberTrees,
        Tree.memberLexemes, commaSeparated_cons_cons, List.cons_append] at behind ⊢
      exact spaced_key blank gap _ (value.spaced_append (.lexeme .comma behind))

end

/-- However a value is laid out, and whatever blanks follow it, it spells its tree. -/
theorem Layout.spelled_append {value : Json} {characters blank : List Char}
    (layout : Layout value characters) (allBlank : Blank blank) :
    (tree value).Spelled (encoded (characters ++ blank)) := by
  have spaced := layout.spaced_append (allBlank.spaced .done)
  rw [List.append_nil, List.append_nil, ← Bytes.encoded_append] at spaced
  exact ⟨whole_tree value, spaced⟩

theorem Layout.spelled {value : Json} {characters : List Char} (layout : Layout value characters) :
    (tree value).Spelled (encoded characters) := by
  have spelled := layout.spelled_append blank_nil
  rwa [List.append_nil] at spelled

theorem spelled_compact (value : Json) : (tree value).Spelled (Bytes.ofText value.compact) := by
  rw [compact, Bytes.ofText_ofList]
  exact (layout_compact value).spelled

private theorem spelled_line (value : Json) :
    (tree value).Spelled (Bytes.ofText (value.compact ++ "\n")) := by
  have characters : value.compact ++ "\n" = String.ofList (value.compactCharacters ++ ['\n']) := by
    rw [compact, String.ofList_append]
  rw [characters, Bytes.ofText_ofList]
  exact (layout_compact value).spelled_append (blank_singleton (by decide))

theorem spelled_pretty (value : Json) : (tree value).Spelled (Bytes.ofText value.pretty) := by
  rw [pretty, Bytes.ofText_ofList]
  exact (layout_pretty 0 value).spelled

theorem document_compact (value : Json) :
    Document.ofBytes (Bytes.ofText value.compact) = ⟨tree value, false⟩ :=
  (spelled_compact value).document

theorem document_line (value : Json) :
    Document.ofBytes (Bytes.ofText (value.compact ++ "\n")) = ⟨tree value, false⟩ :=
  (spelled_line value).document

theorem document_pretty (value : Json) :
    Document.ofBytes (Bytes.ofText value.pretty) = ⟨tree value, false⟩ :=
  (spelled_pretty value).document

end Trees

end OverlayNet.Json
