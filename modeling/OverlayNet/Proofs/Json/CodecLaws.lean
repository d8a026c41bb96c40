import Mathlib
import OverlayNet.Proofs.Json.ObjectMeaning
import OverlayNet.Proofs.Json.WrittenDocuments

set_option autoImplicit false

/-! # Codecs that read what they write

A codec is lawful if it reads each value from the tree of what it writes for it. The codecs of
values without parts are lawful, and a record is lawful if its fields are and have different
names. -/

namespace OverlayNet.Json

/-- A codec that reads every value from what it writes for it. -/
def Codec.Lawful {α : Type} (codec : Codec α) : Prop :=
  ∀ value, codec.read (tree (codec.write value)) = .ok value

/-- A codec that never writes null, which stands for no value. -/
def Codec.Solid {α : Type} (codec : Codec α) : Prop :=
  ∀ value, codec.write value ≠ .null

namespace Codec

variable {α β : Type}

theorem textAs_lawful (expected : String) : (textAs expected).Lawful := by
  intro value
  change (pieceText .closed (textPieces value)).mapError Defect.form = .ok value
  rw [pieceText_textPieces]
  rfl

theorem boolean_lawful : boolean.Lawful :=
  fun _ => rfl

theorem natural_lawful {bound : Nat} (bounded : bound ≤ UInt64.size) (expected : String) :
    (natural bound expected).Lawful := by
  intro value
  have small : value.val < UInt64.size := Nat.lt_of_lt_of_le value.property bounded
  simp [natural, tree, Numeral.number_ofNatural small, value.property]

theorem transport_lawful {codec : Codec α} (lawful : codec.Lawful) {forth : α → β} {back : β → α}
    (inverse : ∀ value, forth (back value) = value) : (codec.transport forth back).Lawful := by
  intro value
  change (codec.read (tree (codec.write (back value)))).map forth = .ok value
  rw [lawful]
  exact congrArg Except.ok (inverse value)

theorem word16_lawful : word16.Lawful :=
  transport_lawful (natural_lawful (by decide) _) fun word => UInt16.ofNatLT_toNat word

theorem word32_lawful : word32.Lawful :=
  transport_lawful (natural_lawful (by decide) _) fun word => UInt32.ofNatLT_toNat word

theorem index_lawful : index.Lawful :=
  transport_lawful (natural_lawful (by decide) _) fun word => UInt64.ofNatLT_toNat word

/-- No item is mistaken for the end of its list. -/
theorem readItems_tree (codec : Codec α) (stop : ListStop) (json : Json) (rest : List Tree) :
    readItems codec stop (tree json :: rest) = (do
      let value ← codec.read (tree json)
      let values ← readItems codec stop rest
      pure (value :: values)) := by
  cases json <;> rfl

theorem list_lawful {codec : Codec α} (lawful : codec.Lawful) : codec.list.Lawful := by
  intro values
  change readItems codec .closed (itemTrees (values.map codec.write)) = .ok values
  induction values with
  | nil => rfl
  | cons value rest ih =>
      rw [List.map_cons, itemTrees, readItems_tree, lawful, ih]
      rfl

theorem textAs_solid (expected : String) : (textAs expected).Solid :=
  fun _ => Json.noConfusion

theorem index_solid : index.Solid :=
  fun _ => Json.noConfusion

theorem list_solid (codec : Codec α) : codec.list.Solid :=
  fun _ => Json.noConfusion

theorem address_lawful : address.Lawful := by
  intro value
  have read : (textAs "IPv4 address").read (tree (.text value.text)) = .ok value.text :=
    textAs_lawful _ value.text
  simp only [address, read, bind, Except.bind, Ipv4.ofText?_text]

theorem ofBytes_compact {codec : Codec α} (lawful : codec.Lawful) (value : α) :
    codec.ofBytes (Bytes.ofText (codec.write value).compact) = .ok value := by
  rw [ofBytes, document_compact, ofDocument, lawful]
  rfl

/-- A newline behind the text of a value makes no difference. -/
theorem ofBytes_line {codec : Codec α} (lawful : codec.Lawful) (value : α) :
    codec.ofBytes (Bytes.ofText ((codec.write value).compact ++ "\n")) = .ok value := by
  rw [ofBytes, document_line, ofDocument, lawful]
  rfl

theorem ofBytes_pretty {codec : Codec α} (lawful : codec.Lawful) (value : α) :
    codec.ofBytes (Bytes.ofText (codec.write value).pretty) = .ok value := by
  rw [ofBytes, document_pretty, ofDocument, lawful]
  rfl

end Codec

/-- A field that reads every value from what it writes for it, and without a member has the value
for which it writes none. -/
structure Field.Lawful {α : Type} (field : Field α) : Prop where
  read_of_write : ∀ {value json}, field.write value = some json →
    field.read (tree json) = .ok value
  missing_of_unwritten : ∀ {value}, field.write value = none → field.whenMissing = some value

namespace Field

variable {α : Type} {codec : Codec α}

theorem required_lawful (name : String) (lawful : codec.Lawful) : (required name codec).Lawful where
  read_of_write := by
    rintro value json ⟨⟩
    exact lawful value
  missing_of_unwritten unwritten := nomatch unwritten

theorem defaulted_lawful (name : String) (lawful : codec.Lawful) (usual : α) :
    (defaulted name codec usual).Lawful where
  read_of_write := by
    rintro value json ⟨⟩
    exact lawful value
  missing_of_unwritten unwritten := nomatch unwritten

theorem optional_lawful (name : String) (lawful : codec.Lawful) (solid : codec.Solid) :
    (optional name codec).Lawful where
  read_of_write := by
    intro value json written
    obtain ⟨held, rfl, rfl⟩ := Option.map_eq_some_iff.mp written
    have read : codec.optional.read (tree (codec.write held)) =
        (codec.read (tree (codec.write held))).map some := by
      cases shape : codec.write held with
      | null => exact absurd shape (solid held)
      | boolean value => rfl
      | number value => rfl
      | text value => rfl
      | list items => rfl
      | object members => rfl
    change codec.optional.read (tree (codec.write held)) = .ok (some held)
    rw [read, lawful]
    rfl
  missing_of_unwritten := by
    intro value unwritten
    rw [Option.map_eq_none_iff.mp unwritten]
    rfl

end Field

namespace Fields

/-- Lawful fields with different names. -/
inductive Lawful : {ρ : Type} → Fields ρ → Prop where
  | none : Lawful .none
  | field {α β : Type} {first : Field α} {rest : Fields β} :
      first.Lawful → rest.hasName first.name = false → rest.Lawful → Lawful (.field first rest)

/-- Members by their names, each with the tree as which it is read. -/
def namedTrees (members : List (String × Json)) : List (String × Tree) :=
  members.map fun (name, value) => (name, tree value)

private theorem hasName_of_mem_write {ρ : Type} {fields : Fields ρ} {values : ρ}
    {member : String × Json}
    (written : member ∈ fields.write values) : fields.hasName member.1 = true := by
  induction fields with
  | none => cases written
  | field first rest ih =>
      obtain ⟨value, values⟩ := values
      rw [write] at written
      rw [hasName, Bool.or_eq_true, beq_iff_eq]
      split at written
      · rcases List.mem_cons.mp written with rfl | behind
        · exact .inl rfl
        · exact .inr (ih behind)
      · exact .inr (ih written)

private theorem fst_ne_of_mem_write {ρ : Type} {fields : Fields ρ} {values : ρ} {name : String}
    {member : String × Json} (absent : fields.hasName name = false)
    (written : member ∈ fields.write values) : member.1 ≠ name := by
  rintro rfl
  rw [hasName_of_mem_write written] at absent
  cases absent

private theorem Lawful.nodup_write {ρ : Type} {fields : Fields ρ} (lawful : fields.Lawful)
    (values : ρ) :
    ((fields.write values).map Prod.fst).Nodup := by
  induction lawful with
  | none => exact List.nodup_nil
  | @field _ _ first rest _ different _ ih =>
      obtain ⟨value, values⟩ := values
      rw [write]
      split
      · rw [List.map_cons, List.nodup_cons]
        refine ⟨?_, ih values⟩
        intro member
        obtain ⟨other, written, same⟩ := List.mem_map.mp member
        exact fst_ne_of_mem_write different written same
      · exact ih values

/-- What fields write for their values passes their check. -/
theorem Lawful.checkValue_write {ρ : Type} {fields : Fields ρ} (lawful : fields.Lawful)
    {values : ρ} {name : String} {json : Json} (written : (name, json) ∈ fields.write values) :
    fields.checkValue name (tree json) = .ok () := by
  induction lawful with
  | none => cases written
  | @field _ _ first rest firstLawful different _ ih =>
      obtain ⟨value, values⟩ := values
      have behind (inRest : (name, json) ∈ rest.write values) :
          (Fields.field first rest).checkValue name (tree json) = .ok () := by
        rw [checkValue, if_neg (fst_ne_of_mem_write different inRest).symm]
        exact ih inRest
      rw [write] at written
      split at written
      · rename_i own ownWritten
        rcases List.mem_cons.mp written with same | inRest
        · obtain ⟨rfl, rfl⟩ := Prod.mk.inj same
          rw [checkValue, if_pos rfl, firstLawful.read_of_write ownWritten]
          rfl
        · exact behind inRest
      · exact behind written

private theorem named_memberTrees (members : List (String × Json)) :
    Named (memberTrees members) (namedTrees members) := by
  induction members with
  | nil => exact .nil
  | cons member rest ih => exact .cons ⟨pieceText_textPieces member.1, rfl⟩ ih

private theorem Lawful.admits_write {ρ : Type} {fields : Fields ρ} (lawful : fields.Lawful)
    (values : ρ) :
    fields.Admits (namedTrees (fields.write values)) where
  values := List.forall_mem_map.mpr fun _ written => lawful.checkValue_write written
  once := by
    refine List.pairwise_map.mpr ((List.pairwise_map.mp (lawful.nodup_write values)).imp ?_)
    exact fun apart _ => apart

private theorem mem_namedTrees_of_ne {members : List (String × Json)} {member : String × Json}
    {name : String} (other : name ≠ member.1) {found : Tree} :
    (name, found) ∈ namedTrees (member :: members) ↔ (name, found) ∈ namedTrees members := by
  simp [namedTrees, other]

/-- What fields write for their values holds these values. -/
theorem Lawful.valued_write {ρ : Type} {fields : Fields ρ} (lawful : fields.Lawful) (values : ρ) :
    fields.Valued (namedTrees (fields.write values)) values := by
  induction lawful with
  | none => trivial
  | @field _ _ first rest firstLawful different _ ih =>
      obtain ⟨value, values⟩ := values
      have behind := ih values
      rw [write]
      split
      · rename_i json written
        refine ⟨.given List.mem_cons_self (firstLawful.read_of_write written), ?_⟩
        refine behind.congr fun {name _} known => ?_
        have other : name ≠ first.name := by
          rintro rfl
          rw [different] at known
          cases known
        exact (mem_namedTrees_of_ne other).symm
      · rename_i unwritten
        refine ⟨.missing ?_ (firstLawful.missing_of_unwritten unwritten), behind⟩
        intro tree inside
        obtain ⟨member, written, same⟩ := List.mem_map.mp inside
        exact fst_ne_of_mem_write different written (congrArg Prod.fst same)

private theorem Lawful.readObject_write {ρ : Type} {fields : Fields ρ} (lawful : fields.Lawful)
    (values : ρ) : fields.readObject (memberTrees (fields.write values)) .closed = .ok values :=
  readObject_eq_ok_iff.mpr ⟨_, named_memberTrees _, lawful.admits_write values,
    lawful.valued_write values⟩

end Fields

theorem Record.codec_lawful {α : Type} {record : Record α} (lawful : record.fields.Lawful)
    (inverse : ∀ value, record.make (record.parts value) = value) : record.codec.Lawful := by
  intro value
  change (record.fields.readObject (memberTrees (record.fields.write (record.parts value)))
    .closed).map record.make = .ok value
  rw [lawful.readObject_write]
  exact congrArg Except.ok (inverse value)

end OverlayNet.Json
