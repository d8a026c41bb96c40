import Mathlib
import OverlayNet.Proofs.Json.CodecLaws
import OverlayNet.Proofs.Procedure

set_option autoImplicit false

/-! # Null members

Under the name of an optional field, a member that is null reads like no member at all, wherever it
stands in its object. -/

namespace OverlayNet.Json

/-- Whether a null member under a name reads like none, among any members of other names. -/
def Codec.NullIsAbsent {α : Type} (codec : Codec α) (name : String) : Prop :=
  ∀ (front back : List (List Piece × Tree)) (key : List Piece) (trailing : Bool),
    pieceText .closed key = .ok name →
    (∀ member ∈ front ++ back, pieceText .closed member.1 ≠ .ok name) →
    codec.ofDocument ⟨.object (front ++ (key, .null) :: back) .closed, trailing⟩ =
      codec.ofDocument ⟨.object (front ++ back) .closed, trailing⟩

/-- Whether a field has the same value if it is null as if it is missing. -/
def Field.Nullable {α : Type} (field : Field α) : Prop :=
  ∃ value, field.read .null = .ok value ∧ field.whenMissing = some value

theorem Field.optional_nullable {α : Type} (name : String) (codec : Codec α) :
    (Field.optional name codec).Nullable :=
  ⟨none, rfl, rfl⟩

namespace Fields

/-- Whether just one of the fields has the name, and that one is nullable. -/
inductive Nullable (name : String) : {ρ : Type} → Fields ρ → Prop where
  | first {α β : Type} {first : Field α} {rest : Fields β} :
      first.name = name → first.Nullable → rest.hasName name = false →
      Nullable name (.field first rest)
  | behind {α β : Type} {first : Field α} {rest : Fields β} :
      first.name ≠ name → rest.Nullable name → Nullable name (.field first rest)

variable {ρ : Type} {fields : Fields ρ} {name : String}

private theorem Nullable.checkValue (nullable : fields.Nullable name) :
    fields.checkValue name .null = .ok () := by
  induction nullable with
  | first own nullable =>
      obtain ⟨value, read, -⟩ := nullable
      rw [Fields.checkValue, if_pos own, read]
      rfl
  | behind other _ ih => rw [Fields.checkValue, if_neg other, ih]

theorem nullable_optional {α β : Type} {name : String} (codec : Codec α) {rest : Fields β}
    (absent : rest.hasName name = false) :
    (Fields.field (Field.optional name codec) rest).Nullable name :=
  .first rfl (Field.optional_nullable name codec) absent

private theorem checkKey_congr {seen others : List String} {pieces : List Piece} {ending : Ending}
    (same : ∀ other, pieceText ending pieces = .ok other → (other ∈ seen ↔ other ∈ others)) :
    fields.checkKey seen pieces ending = fields.checkKey others pieces ending := by
  rw [checkKey, checkKey]
  cases text : pieceText ending pieces with
  | error fault => rfl
  | ok other =>
      have contains : seen.contains other = others.contains other := by
        rw [Bool.eq_iff_iff, List.contains_iff_mem, List.contains_iff_mem]
        exact same other text
      simp only [contains]

private theorem text_of_checkKey {seen : List String} {pieces : List Piece} {other : String}
    (checked : fields.checkKey seen pieces .closed = .ok other) :
    pieceText .closed pieces = .ok other :=
  (checkKey_eq_ok_iff.mp checked).1

/-- Which members of a name came before is of no account to members of other names. -/
theorem checkMembers_congr {members : List (List Piece × Tree)} {seen others : List String}
    (same : ∀ other, other ≠ name → (other ∈ seen ↔ other ∈ others))
    (unnamed : ∀ member ∈ members, pieceText .closed member.1 ≠ .ok name) :
    fields.checkMembers .closed seen members = fields.checkMembers .closed others members := by
  induction members generalizing seen others with
  | nil => rfl
  | cons member rest ih =>
      obtain ⟨pieces, value⟩ := member
      have key : fields.checkKey seen pieces .closed = fields.checkKey others pieces .closed := by
        apply checkKey_congr
        intro other text
        apply same other
        rintro rfl
        exact unnamed (pieces, value) List.mem_cons_self text
      have behind (other : String) : fields.checkMembers .closed (other :: seen) rest =
          fields.checkMembers .closed (other :: others) rest := by
        apply ih
        · intro another different
          rw [List.mem_cons, List.mem_cons, same another different]
        · exact fun member inside => unnamed member (List.mem_cons_of_mem _ inside)
      simp only [checkMembers, key, behind]

/-- Whether members differ from others only by a null under a name that the others lack. -/
structure NullAdded (name : String) (named padded : List (String × Tree)) : Prop where
  null : padded.lookup name = some .null
  missing : named.lookup name = Option.none
  others : ∀ other, other ≠ name → padded.lookup other = named.lookup other

theorem NullAdded.cons {named padded : List (String × Tree)} {other : String}
    (added : NullAdded name named padded) (different : other ≠ name) (value : Tree) :
    NullAdded name ((other, value) :: named) ((other, value) :: padded) := by
  have skipped : (name == other) = false := beq_eq_false_iff_ne.mpr different.symm
  constructor
  case null => rw [List.lookup_cons, skipped, added.null]
  case missing => rw [List.lookup_cons, skipped, added.missing]
  case others =>
    intro another apart
    rw [List.lookup_cons, List.lookup_cons, added.others another apart]

private theorem lookup_of_unnamed {members : List (List Piece × Tree)} {seen : List String}
    {named : List (String × Tree)}
    (unnamed : ∀ member ∈ members, pieceText .closed member.1 ≠ .ok name)
    (checked : fields.checkMembers .closed seen members = .ok named) :
    named.lookup name = Option.none := by
  induction members generalizing seen named with
  | nil =>
      obtain rfl := Except.ok.inj checked
      rfl
  | cons member rest ih =>
      obtain ⟨pieces, value⟩ := member
      simp only [checkMembers, bind, exceptBind_eq_ok_iff] at checked
      obtain ⟨other, key, _, -, behind, restChecked, same⟩ := checked
      obtain rfl := Except.ok.inj same
      have different : other ≠ name := by
        rintro rfl
        exact unnamed (pieces, value) List.mem_cons_self (text_of_checkKey key)
      rw [List.lookup_cons, beq_eq_false_iff_ne.mpr different.symm]
      exact ih (fun member inside => unnamed member (List.mem_cons_of_mem _ inside)) restChecked

/-- With a null member added, the check has the same defect or the same members and that one. -/
theorem Nullable.checkMembers_insert (nullable : fields.Nullable name)
    {front back : List (List Piece × Tree)} {key : List Piece} {seen : List String}
    (keyText : pieceText .closed key = .ok name) (new : name ∉ seen)
    (unnamed : ∀ member ∈ front ++ back, pieceText .closed member.1 ≠ .ok name) :
    (∃ defect,
        fields.checkMembers .closed seen (front ++ (key, .null) :: back) = .error defect ∧
          fields.checkMembers .closed seen (front ++ back) = .error defect) ∨
      ∃ named padded,
        fields.checkMembers .closed seen (front ++ (key, .null) :: back) = .ok padded ∧
          fields.checkMembers .closed seen (front ++ back) = .ok named ∧
          NullAdded name named padded := by
  induction front generalizing seen with
  | nil =>
      have keyChecked : fields.checkKey seen key .closed = .ok name :=
        checkKey_eq_ok_iff.mpr ⟨keyText, fun _ => new⟩
      have behind : fields.checkMembers .closed (name :: seen) back =
          fields.checkMembers .closed seen back := by
        apply checkMembers_congr _ unnamed
        intro other different
        rw [List.mem_cons, or_iff_right different]
      simp only [List.nil_append, checkMembers, keyChecked, nullable.checkValue, behind, bind,
        Except.bind]
      cases checked : fields.checkMembers .closed seen back with
      | error defect => exact .inl ⟨defect, rfl, rfl⟩
      | ok named =>
          refine .inr ⟨named, (name, .null) :: named, rfl, rfl, ?_⟩
          constructor
          case null => rw [List.lookup_cons, beq_self_eq_true]
          case missing => exact lookup_of_unnamed unnamed checked
          case others =>
            intro other different
            rw [List.lookup_cons, beq_eq_false_iff_ne.mpr different]
  | cons member front ih =>
      obtain ⟨pieces, value⟩ := member
      simp only [List.cons_append, checkMembers, bind, Except.bind]
      cases keyChecked : fields.checkKey seen pieces .closed with
      | error defect => exact .inl ⟨defect, rfl, rfl⟩
      | ok other =>
          cases valueChecked : fields.checkValue other value with
          | error defect =>
              exact .inl ⟨defect, by simp only [valueChecked], by simp only [valueChecked]⟩
          | ok done =>
              have different : other ≠ name := by
                rintro rfl
                exact unnamed (pieces, value) List.mem_cons_self (text_of_checkKey keyChecked)
              have fresh : name ∉ other :: seen := by
                rw [List.mem_cons, not_or]
                exact ⟨different.symm, new⟩
              rcases ih fresh fun member inside =>
                  unnamed member (List.mem_cons_of_mem _ inside) with
                ⟨defect, padded, plain⟩ | ⟨named, padded, paddedChecked, plainChecked, added⟩
              · exact .inl ⟨defect, by simp only [valueChecked, padded],
                  by simp only [valueChecked, plain]⟩
              · refine .inr ⟨(other, value) :: named, (other, value) :: padded, ?_, ?_,
                  added.cons different value⟩
                · simp only [valueChecked, paddedChecked]
                  rfl
                · simp only [valueChecked, plainChecked]
                  rfl

private theorem collect_congr {first second : List (String × Tree)}
    (same : ∀ other, fields.hasName other = true → first.lookup other = second.lookup other) :
    fields.collect first = fields.collect second := by
  induction fields with
  | none => rfl
  | field field rest ih =>
      have behind : rest.collect first = rest.collect second := by
        apply ih
        intro other inRest
        exact same other (by simp [hasName, inRest])
      rw [collect, collect, behind, same field.name (by simp [hasName])]

/-- A null and no member are collected as the same value. -/
theorem Nullable.collect (nullable : fields.Nullable name) {named padded : List (String × Tree)}
    (added : NullAdded name named padded) : fields.collect padded = fields.collect named := by
  induction nullable with
  | @first _ _ first rest own nullable absent =>
      obtain ⟨value, read, missing⟩ := nullable
      have behind : rest.collect padded = rest.collect named := by
        apply collect_congr
        intro other inRest
        apply added.others
        rintro rfl
        rw [absent] at inRest
        cases inRest
      simp only [Fields.collect, own, added.null, added.missing, read, missing, behind]
  | @behind _ _ first rest other _ ih =>
      rw [Fields.collect, Fields.collect, ih, added.others first.name other]

end Fields

theorem Record.nullIsAbsent {α : Type} {record : Record α} {name : String}
    (nullable : record.fields.Nullable name) : record.codec.NullIsAbsent name := by
  intro front back key trailing keyText unnamed
  have same : record.codec.read (.object (front ++ (key, .null) :: back) .closed) =
      record.codec.read (.object (front ++ back) .closed) := by
    change (record.fields.readObject _ _).map _ = (record.fields.readObject _ _).map _
    rw [Fields.readObject, Fields.readObject]
    rcases nullable.checkMembers_insert keyText List.not_mem_nil unnamed with
      ⟨defect, padded, plain⟩ | ⟨named, padded, paddedChecked, plainChecked, added⟩
    · rw [padded, plain]
    · rw [paddedChecked, plainChecked]
      exact congrArg (Except.map record.make) (nullable.collect added)
  rw [Codec.ofDocument, Codec.ofDocument, same]

end OverlayNet.Json
