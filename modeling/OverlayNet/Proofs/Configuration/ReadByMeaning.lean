import Mathlib
import OverlayNet.Proofs.Configuration.RoundTrip
import OverlayNet.Proofs.Json.ObjectMeaning

set_option autoImplicit false

/-! # Configurations, read by what they mean

What a configuration object holds is read from its members by their names. Neither their order nor
the blanks around them, nor members of other names, nor whether a usual value is written out make a
difference. -/

namespace OverlayNet

open Json (Codec Piece Tree pieceText)

namespace NetworkConfiguration

/-- One edit of a configuration object that changes nothing of what it holds: of its own members, or
of those of the object that describes its overlay or its ledger. -/
inductive Edit : (before after : List (List Piece × Tree)) → Prop where
  | own {before after : List (List Piece × Tree)} :
      record.fields.Edit before after → Edit before after
  | vxlan {front back before after : List (List Piece × Tree)} {key : List Piece} :
      pieceText .closed key = .ok "vxlan" → Vxlan.record.fields.Edit before after →
      Edit (front ++ (key, .object before .closed) :: back)
        (front ++ (key, .object after .closed) :: back)
  | ledger {front back before after : List (List Piece × Tree)} {key : List Piece} :
      pieceText .closed key = .ok "ledger" → Ledger.record.fields.Edit before after →
      Edit (front ++ (key, .object before .closed) :: back)
        (front ++ (key, .object after .closed) :: back)

/-- What keeps an object from being read as a configuration, whatever else it holds: a field that is
given twice, or one that must be given and is not. -/
inductive Flawed (members : List (List Piece × Tree)) : Prop where
  | own : record.fields.Flawed members → Flawed members
  | vxlan {key : List Piece} {inner : List (List Piece × Tree)} :
      (key, .object inner .closed) ∈ members → pieceText .closed key = .ok "vxlan" →
      Vxlan.record.fields.Flawed inner → Flawed members
  | ledger {key : List Piece} {inner : List (List Piece × Tree)} :
      (key, .object inner .closed) ∈ members → pieceText .closed key = .ok "ledger" →
      Ledger.record.fields.Flawed inner → Flawed members

section Members

variable {members before after : List (List Piece × Tree)} {configuration : NetworkConfiguration}

/-- The fields of a configuration that hold objects with fields of their own. -/
inductive SubRecord : {α : Type} → String → Json.Record α → Prop where
  | vxlan : SubRecord "vxlan" Vxlan.record
  | ledger : SubRecord "ledger" Ledger.record

theorem SubRecord.readsAlike {α : Type} {name : String} {inner : Json.Record α}
    (part : SubRecord name inner) {first second : Tree}
    (alike : ∀ value, inner.codec.read first = .ok value → inner.codec.read second = .ok value) :
    record.fields.ReadsAlike name first second := by
  cases part <;>
    simpa [record, Json.Fields.ReadsAlike, Json.Field.required, Json.Field.defaulted] using alike

private theorem Edit.read (edit : Edit before after)
    (held : record.codec.read (.object before .closed) = .ok configuration) :
    record.codec.read (.object after .closed) = .ok configuration := by
  cases edit with
  | own edit => exact Json.Record.read_of_edit edit held
  | vxlan text edit =>
      exact Json.Record.read_of_replace text rfl
        (SubRecord.vxlan.readsAlike fun _ => Json.Record.read_of_edit edit) held
  | ledger text edit =>
      exact Json.Record.read_of_replace text rfl
        (SubRecord.ledger.readsAlike fun _ => Json.Record.read_of_edit edit) held

private theorem read_of_edits (edits : Relation.ReflTransGen Edit before after)
    (held : record.codec.read (.object before .closed) = .ok configuration) :
    record.codec.read (.object after .closed) = .ok configuration := by
  induction edits with
  | refl => exact held
  | tail _ edit ih => exact edit.read ih

private theorem Flawed.read_ne_ok (flawed : Flawed members) (configuration : NetworkConfiguration) :
    record.codec.read (.object members .closed) ≠ .ok configuration := by
  intro held
  cases flawed with
  | own flawed => exact Json.Record.read_ne_ok_of_flawed flawed configuration held
  | vxlan inside text flawed =>
      exact Json.Record.checked_ne_ok_of_flawed flawed
        (Json.Record.checkValue_of_read held inside text)
  | ledger inside text flawed =>
      exact Json.Record.checked_ne_ok_of_flawed flawed
        (Json.Record.checkValue_of_read held inside text)

end Members

section Texts

variable {bytes : Bytes} {configuration : NetworkConfiguration}

private theorem held_of_parse (parsed : parse bytes = .ok configuration) :
    record.codec.ofBytes bytes = .ok configuration := by
  simp only [parse, bind, exceptBind_eq_ok_iff, NetworkConfiguration.read,
    exceptMapError_eq_ok_iff] at parsed
  obtain ⟨candidate, held, _, -, same⟩ := parsed
  obtain rfl := Except.ok.inj same
  exact held

/-- What cannot be read is reported as an invalid configuration. -/
theorem parse_of_unreadable
    (unreadable : ∀ configuration, record.codec.ofBytes bytes ≠ .ok configuration) :
    ∃ defect message,
      parse bytes = .error defect ∧ defect.fault = .invalidConfiguration message := by
  cases held : record.codec.ofBytes bytes with
  | ok configuration => exact absurd held (unreadable configuration)
  | error defect =>
      refine ⟨.unreadable defect, _, ?_, rfl⟩
      rw [parse, NetworkConfiguration.read, held]
      rfl

/-- Every text of a configuration spells an object or a list. If it spells an object, every text
of the object behind any edits that change nothing of what it holds is a text of the same
configuration, whatever the blanks in it. No text of an object in which a field is given twice, or
is missing and has no usual value, is a text of a configuration. -/
theorem configurations_read_by_meaning :
    (∀ (bytes : Bytes) (configuration : NetworkConfiguration),
      parse bytes = .ok configuration →
        (∃ members, (Tree.object members .closed).Spelled bytes) ∨
          ∃ items, (Tree.list items .closed).Spelled bytes) ∧
    (∀ (bytes : Bytes) (configuration : NetworkConfiguration)
        (members : List (List Piece × Tree)),
      (Tree.object members .closed).Spelled bytes → parse bytes = .ok configuration →
        ∀ (edited : List (List Piece × Tree)) (text : Bytes),
          Relation.ReflTransGen Edit members edited →
            (Tree.object edited .closed).Spelled text → parse text = .ok configuration) ∧
    ∀ (bytes : Bytes) (members : List (List Piece × Tree)),
      (Tree.object members .closed).Spelled bytes → Flawed members →
        ∃ defect message,
          parse bytes = .error defect ∧ defect.fault = .invalidConfiguration message := by
  refine ⟨?_, ?_, ?_⟩
  · intro bytes configuration parsed
    exact Json.Record.spelled_of_ofBytes (held_of_parse parsed)
  · intro bytes configuration members spelled parsed edited text edits rewritten
    have held := held_of_parse parsed
    rw [Codec.ofBytes_of_spelled spelled] at held
    have again : record.codec.ofBytes text = .ok configuration :=
      (Codec.ofBytes_of_spelled rewritten).trans (read_of_edits edits held)
    exact (parse_eq_ok_iff again).mpr ⟨usable_of_parse parsed, rfl⟩
  · intro bytes members spelled flawed
    apply parse_of_unreadable
    intro configuration held
    exact flawed.read_ne_ok configuration ((Codec.ofBytes_of_spelled spelled).symm.trans held)

example : record.fields.requiredNames =
    ["cniVersion", "name", "type", "subnet", "clusterCidr", "hostPhysicalInterface"] := by
  decide

end Texts

section Rearranged

open Json (memberTrees textPieces pieceText_textPieces)

def nearby : NetworkConfiguration :=
  usual "net" "10.32.1.0/24" "10.32.0.0/16" "eth0"

def nearbyRequired : List (String × Json) :=
  [("cniVersion", .text "1.0.0"), ("name", .text "net"), ("type", .text "sknf"),
    ("subnet", .text "10.32.1.0/24"), ("clusterCidr", .text "10.32.0.0/16"),
    ("hostPhysicalInterface", .text "eth0")]

/-- What follows the overlay in the written configuration. -/
def nearbyRest : List (String × Json) :=
  [("ledger", .object [("path", .text Ledger.usualPath.text), ("lock", .boolean false)]),
    ("brNetfilter", .boolean false)]

def nearbyGroup : List (String × Json) :=
  [("group", .text Vxlan.usual.group.text), ("port", .number Vxlan.usual.port.toNat)]

/-- The members of the written configuration in another order, with one of no field, and without the
bridge and the identifier of the overlay. -/
def rearranged : List (String × Json) :=
  (("plugins", .list [.object [("deep", .list [.null])], .number 7]) ::
    (nearbyRequired ++
      ("vxlan", .object (("name", .text Vxlan.usual.name) :: nearbyGroup)) :: nearbyRest)).reverse

private theorem usualBridge_readsUsual :
    record.fields.ReadsUsual "bridge" (Json.tree (.text Topology.usualBridge)) := by
  simp only [record, Json.Fields.ReadsUsual, Json.Field.required, Json.Field.defaulted,
    String.reduceEq, false_implies, true_and, and_true, forall_const, Option.some.injEq,
    exists_eq_left']
  exact Codec.textAs_lawful _ _

private theorem usualIdentifier_readsUsual :
    Vxlan.record.fields.ReadsUsual "vni" (Json.tree (.number Vxlan.usual.identifier.toNat)) := by
  simp only [Vxlan.record, Json.Fields.ReadsUsual, Json.Field.defaulted, String.reduceEq,
    false_implies, true_and, and_true, forall_const, Option.some.injEq, exists_eq_left']
  exact Codec.word32_lawful Vxlan.usual.identifier

theorem configurations_read_by_meaning_rearranged :
    parse (Bytes.ofText (Json.object rearranged).pretty) = .ok nearby ∧
      ∃ defect message,
        parse (Bytes.ofText (Json.object (("brNetfilter", .null) :: rearranged)).compact) =
            .error defect ∧
          defect.fault = .invalidConfiguration message := by
  have subnetRead : Cidr.parse "10.32.1.0/24" = .ok ⟨⟨0x0a200100⟩, 24, by decide⟩ := by
    decide +kernel
  have clusterRead : Cidr.parse "10.32.0.0/16" = .ok ⟨⟨0x0a200000⟩, 16, by decide⟩ := by
    decide +kernel
  have parsed : parse (Bytes.ofText nearby.json.compact) = .ok nearby :=
    parse_compact (usual_usable "net" subnetRead clusterRead ⟨by decide, by decide⟩)
  have withoutBridge := @Edit.own _ _ (@Json.Fields.Edit.remove _ record.fields
    (memberTrees nearbyRequired)
    (memberTrees (("vxlan", Vxlan.record.codec.write .usual) :: nearbyRest)) _ _ _
    (pieceText_textPieces "bridge") usualBridge_readsUsual)
  have withoutIdentifier := @Edit.vxlan (memberTrees nearbyRequired) (memberTrees nearbyRest) _ _ _
    (pieceText_textPieces "vxlan") (@Json.Fields.Edit.remove _ Vxlan.record.fields
      (memberTrees [("name", .text Vxlan.usual.name)]) (memberTrees nearbyGroup) _ _ _
      (pieceText_textPieces "vni") usualIdentifier_readsUsual)
  have withUnknown := @Edit.own _ _ (@Json.Fields.Edit.insert _ record.fields []
    (memberTrees (nearbyRequired ++
      ("vxlan", .object (("name", .text Vxlan.usual.name) :: nearbyGroup)) :: nearbyRest)) _ _ _
    (pieceText_textPieces "plugins") rfl
    (Json.whole_tree (.list [.object [("deep", .list [.null])], .number 7])))
  have reversed : Edit (memberTrees rearranged.reverse) (memberTrees rearranged) :=
    .own (.permute (List.reverse_perm (memberTrees rearranged)))
  obtain ⟨-, edited, refused⟩ := configurations_read_by_meaning
  refine ⟨?_, ?_⟩
  · exact edited _ _ _ (Json.spelled_compact nearby.json) parsed (memberTrees rearranged) _
      (.head withoutBridge (.head withoutIdentifier (.head withUnknown (.single reversed))))
      (Json.spelled_pretty (.object rearranged))
  · refine refused _ _ (Json.spelled_compact (.object (("brNetfilter", .null) :: rearranged))) ?_
    exact .own (.repeated rfl
      (.refl ((textPieces "brNetfilter", _) :: (textPieces "brNetfilter", _) :: _))
      (pieceText_textPieces _) (pieceText_textPieces _))

end Rearranged

end NetworkConfiguration

end OverlayNet
