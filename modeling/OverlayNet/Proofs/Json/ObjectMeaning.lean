import Mathlib
import OverlayNet.Json.Record
import OverlayNet.Proofs.Json.SpelledDocuments
import OverlayNet.Proofs.Procedure

set_option autoImplicit false

/-! # What the members of an object mean

Whether the members of an object are read as the values of fields, and as which, depends on neither
their order nor members without a field, and not on whether a usual value is given or left out. -/

namespace OverlayNet.Json

section Skipping

private theorem skipItemsFault?_eq_none {items : List Tree}
    (sound : ∀ item ∈ items, item.skipFault? = none) : skipItemsFault? items = none := by
  induction items with
  | nil => rfl
  | cons item rest ih =>
      rw [skipItemsFault?, sound item List.mem_cons_self, Option.none_or,
        ih fun other member => sound other (List.mem_cons_of_mem item member)]

private theorem skipMembersFault?_eq_none {members : List (List Piece × Tree)}
    (sound : ∀ member ∈ members, member.2.skipFault? = none) :
    skipMembersFault? members = none := by
  induction members with
  | nil => rfl
  | cons member rest ih =>
      rw [skipMembersFault?, sound member List.mem_cons_self, Option.none_or,
        ih fun other inside => sound other (List.mem_cons_of_mem member inside)]

/-- A tree that is whole may stand where nobody wants a value. -/
theorem Tree.Whole.skip {tree : Tree} (whole : tree.Whole) : tree.skip = .ok () := by
  have sound : tree.skipFault? = none := by
    induction whole with
    | list _ ih => rw [skipFault?, skipItemsFault?_eq_none ih]; rfl
    | object _ ih => rw [skipFault?, skipMembersFault?_eq_none ih]; rfl
    | _ => rfl
  rw [Tree.skip, sound]

end Skipping

/-- Members and the same with the texts of their keys. -/
def Named (members : List (List Piece × Tree)) (named : List (String × Tree)) : Prop :=
  List.Forall₂ (fun member name => pieceText .closed member.1 = .ok name.1 ∧ member.2 = name.2)
    members named

private theorem Named.exists_of_mem {members : List (List Piece × Tree)}
    {named : List (String × Tree)}
    (texts : Named members named) {name : String} {tree : Tree} (inside : (name, tree) ∈ named) :
    ∃ member ∈ members, pieceText .closed member.1 = .ok name ∧ member.2 = tree := by
  induction texts with
  | nil => cases inside
  | @cons member _ _ _ text _ ih =>
      cases inside with
      | head => exact ⟨member, List.mem_cons_self, text⟩
      | tail _ behind =>
          obtain ⟨other, inMembers, otherText⟩ := ih behind
          exact ⟨other, List.mem_cons_of_mem member inMembers, otherText⟩

private theorem Named.exists_of_mem_left {members : List (List Piece × Tree)}
    {named : List (String × Tree)} (texts : Named members named) {member : List Piece × Tree}
    (inside : member ∈ members) :
    ∃ other ∈ named, pieceText .closed member.1 = .ok other.1 ∧ other.2 = member.2 := by
  induction texts with
  | nil => cases inside
  | @cons _ other _ _ text _ ih =>
      cases inside with
      | head => exact ⟨other, List.mem_cons_self, text.1, text.2.symm⟩
      | tail _ behind =>
          obtain ⟨another, inNamed, anotherText⟩ := ih behind
          exact ⟨another, List.mem_cons_of_mem other inNamed, anotherText⟩

/-- The value of a field among members: that of its own member, or the usual one if there is no
such member. -/
inductive Field.Valued {α : Type} (field : Field α) (named : List (String × Tree)) : α → Prop where
  | given {tree : Tree} {value : α} :
      (field.name, tree) ∈ named → field.read tree = .ok value → Valued field named value
  | missing {value : α} :
      (∀ tree, (field.name, tree) ∉ named) → field.whenMissing = some value →
      Valued field named value

namespace Field

variable {α : Type} {field : Field α} {named : List (String × Tree)} {name : String} {tree : Tree}
  {value : α}

private theorem valued_cons_of_ne (other : field.name ≠ name) :
    field.Valued ((name, tree) :: named) value ↔ field.Valued named value := by
  have same {another : Tree} :
      (field.name, another) ∈ (name, tree) :: named ↔ (field.name, another) ∈ named := by
    simp [other]
  constructor <;> intro held <;> cases held with
  | given inside read => exact .given (by simpa only [same] using inside) read
  | missing absent usual => exact .missing (by simpa only [same] using absent) usual

/-- A field has the value of its own member, if that is the only one. -/
theorem Valued.read_head (held : field.Valued ((name, tree) :: named) value)
    (own : field.name = name) (absent : ∀ other, (name, other) ∉ named) :
    field.read tree = .ok value := by
  cases held with
  | @given found _ inside read =>
      rw [own, List.mem_cons, Prod.mk.injEq] at inside
      obtain ⟨-, rfl⟩ | behind := inside
      · exact read
      · exact absurd behind (absent found)
  | missing none _ => exact absurd (own ▸ List.mem_cons_self) (none tree)

end Field

namespace Fields

variable {ρ : Type}

/-- Whether the values of all of these members can be read or skipped, and no field is given
twice. -/
structure Admits (fields : Fields ρ) (named : List (String × Tree)) : Prop where
  values : ∀ member ∈ named, fields.checkValue member.1 member.2 = .ok ()
  once : named.Pairwise fun first second => fields.hasName first.1 = true → first.1 ≠ second.1

/-- The values of fields among members, in whatever order these stand. -/
def Valued (named : List (String × Tree)) : {ρ : Type} → Fields ρ → ρ → Prop
  | _, .none, () => True
  | _, .field first rest, (value, values) =>
      first.Valued named value ∧ rest.Valued named values

section Reading

variable {fields : Fields ρ} {values : ρ}

theorem checkKey_eq_ok_iff {seen : List String} {pieces : List Piece} {name : String} :
    fields.checkKey seen pieces .closed = .ok name ↔
      pieceText .closed pieces = .ok name ∧ (fields.hasName name = true → name ∉ seen) := by
  unfold checkKey
  cases text : pieceText .closed pieces with
  | error fault => simp
  | ok found =>
      have unrepeated : (fields.hasName found && seen.contains found) = false ↔
          (fields.hasName found = true → found ∉ seen) := by
        cases fields.hasName found <;> simp
      by_cases fresh : fields.hasName found = true → found ∉ seen
      · simp only [unrepeated.mpr fresh, Bool.false_eq_true, if_false, Except.ok.injEq]
        constructor
        · rintro rfl
          exact ⟨rfl, fresh⟩
        · exact And.left
      · rw [← unrepeated, Bool.not_eq_false] at fresh
        simp only [fresh, if_true, reduceCtorEq, false_iff, Except.ok.injEq]
        rintro ⟨rfl, unseen⟩
        rw [unrepeated.mpr unseen] at fresh
        cases fresh

/-- Members are found good in their order exactly if they are good in any. -/
theorem checkMembers_eq_ok_iff {seen : List String} {members : List (List Piece × Tree)}
    {named : List (String × Tree)} :
    fields.checkMembers .closed seen members = .ok named ↔
      Named members named ∧ fields.Admits named ∧
        ∀ member ∈ named, fields.hasName member.1 = true → member.1 ∉ seen := by
  induction members generalizing seen named with
  | nil =>
      constructor
      · intro checked
        obtain rfl := Except.ok.inj checked
        exact ⟨.nil, ⟨nofun, .nil⟩, nofun⟩
      · rintro ⟨⟨⟩, -, -⟩
        rfl
  | cons member rest ih =>
      obtain ⟨pieces, value⟩ := member
      simp only [checkMembers, bind, exceptBind_eq_ok_iff, checkKey_eq_ok_iff, ih]
      constructor
      · rintro ⟨name, ⟨text, fresh⟩, _, checked, others, ⟨texts, admitted, apart⟩, same⟩
        obtain rfl := Except.ok.inj same
        refine ⟨.cons ⟨text, rfl⟩ texts, ⟨?_, .cons ?_ admitted.once⟩, ?_⟩
        · exact List.forall_mem_cons.mpr ⟨checked, admitted.values⟩
        · rintro ⟨other, tree⟩ inside known rfl
          exact apart _ inside known List.mem_cons_self
        · refine List.forall_mem_cons.mpr ⟨fresh, ?_⟩
          exact fun other inside known member =>
            apart other inside known (List.mem_cons_of_mem name member)
      · rintro ⟨texts, admitted, fresh⟩
        cases texts with
        | @cons _ first _ others text texts =>
            obtain ⟨name, tree⟩ := first
            obtain ⟨text, rfl⟩ := text
            obtain ⟨checked, checkedOthers⟩ := List.forall_mem_cons.mp admitted.values
            obtain ⟨new, newOthers⟩ := List.forall_mem_cons.mp fresh
            obtain ⟨apart, once⟩ := List.pairwise_cons.mp admitted.once
            refine ⟨name, ⟨text, new⟩, (), checked, others, ⟨texts, ⟨checkedOthers, once⟩, ?_⟩,
              rfl⟩
            intro other inside known member
            cases member with
            | head => exact apart other inside known rfl
            | tail _ behind => exact newOthers other inside known behind

/-- A member of a field that is given once is the one that is found under its name. -/
theorem lookup_eq_some_iff {named : List (String × Tree)} {name : String} {tree : Tree}
    (admitted : fields.Admits named) (known : fields.hasName name = true) :
    named.lookup name = some tree ↔ (name, tree) ∈ named := by
  obtain ⟨-, once⟩ := admitted
  induction named with
  | nil => simp
  | cons first rest ih =>
      obtain ⟨other, value⟩ := first
      obtain ⟨apart, onceOthers⟩ := List.pairwise_cons.mp once
      by_cases same : name = other
      · subst same
        rw [List.lookup_cons, beq_self_eq_true, List.mem_cons, Option.some.injEq]
        constructor
        · rintro rfl
          exact .inl rfl
        · rintro (same | behind)
          · exact (Prod.mk.inj same).2.symm
          · exact absurd rfl (apart (name, tree) behind known)
      · rw [List.lookup_cons, beq_eq_false_iff_ne.mpr same, List.mem_cons, ih onceOthers]
        constructor
        · exact .inr
        · rintro (equal | behind)
          · exact absurd (Prod.mk.inj equal).1 same
          · exact behind

theorem collect_eq_ok_iff {named : List (String × Tree)}
    (found : ∀ {name tree}, fields.hasName name = true →
      (named.lookup name = some tree ↔ (name, tree) ∈ named)) :
    fields.collect named = .ok values ↔ fields.Valued named values := by
  induction fields with
  | none => exact ⟨fun _ => trivial, fun _ => rfl⟩
  | field first rest ih =>
      obtain ⟨value, values⟩ := values
      have own {tree : Tree} : named.lookup first.name = some tree ↔ (first.name, tree) ∈ named :=
        found (by simp [hasName])
      have behind {others} : rest.collect named = .ok others ↔ rest.Valued named others :=
        ih fun known => found (by simp [hasName, known])
      cases member : named.lookup first.name with
      | some tree =>
          have inside := own.mp member
          simp only [collect, member, bind, exceptBind_eq_ok_iff, behind, pure, Except.pure,
            Except.ok.injEq, Prod.mk.injEq]
          constructor
          · rintro ⟨_, read, _, valued, rfl, rfl⟩
            exact ⟨.given inside read, valued⟩
          · rintro ⟨held, valued⟩
            cases held with
            | given other read =>
                obtain rfl := Option.some.inj (member.symm.trans (own.mpr other))
                exact ⟨value, read, values, valued, rfl, rfl⟩
            | missing absent _ => exact absurd inside (absent tree)
      | none =>
          have absent : ∀ tree, (first.name, tree) ∉ named := by
            intro tree inside
            rw [own.mpr inside] at member
            cases member
          have held : first.Valued named value ↔ first.whenMissing = some value := by
            constructor
            · intro held
              cases held with
              | given inside _ => exact absurd inside (absent _)
              | missing _ usual => exact usual
            · exact .missing absent
          cases usual : first.whenMissing with
          | none =>
              simp [collect, member, usual, bind, Except.bind, Valued, held]
          | some other =>
              simp only [collect, member, usual, bind, exceptBind_eq_ok_iff, behind, pure,
                Except.pure, Except.ok.injEq, Prod.mk.injEq, Valued, held, Option.some.injEq]
              constructor
              · rintro ⟨_, rfl, _, valued, rfl, rfl⟩
                exact ⟨rfl, valued⟩
              · rintro ⟨rfl, valued⟩
                exact ⟨_, rfl, _, valued, rfl, rfl⟩

/-- The members of an object are read as these values exactly if, in whatever order, they name,
admit and hold them. -/
theorem readObject_eq_ok_iff {members : List (List Piece × Tree)} :
    fields.readObject members .closed = .ok values ↔
      ∃ named, Named members named ∧ fields.Admits named ∧ fields.Valued named values := by
  simp only [readObject, bind, exceptBind_eq_ok_iff, checkMembers_eq_ok_iff]
  constructor
  · rintro ⟨named, ⟨texts, admitted, -⟩, collected⟩
    exact ⟨named, texts, admitted,
      (collect_eq_ok_iff fun known => lookup_eq_some_iff admitted known).mp collected⟩
  · rintro ⟨named, texts, admitted, valued⟩
    exact ⟨named, ⟨texts, admitted, nofun⟩,
      (collect_eq_ok_iff fun known => lookup_eq_some_iff admitted known).mpr valued⟩

end Reading

section Editing

variable {fields : Fields ρ} {values : ρ} {name : String}

/-- Whether the fields of a name read this tree as the value that they have if they are missing. -/
def ReadsUsual {ρ : Type} (name : String) (tree : Tree) : Fields ρ → Prop
  | .none => True
  | .field first rest =>
      (first.name = name → ∃ usual, first.whenMissing = some usual ∧ first.read tree = .ok usual) ∧
        rest.ReadsUsual name tree

/-- Whether the fields of a name read from one tree whatever they read from another. -/
def ReadsAlike {ρ : Type} (name : String) (before after : Tree) : Fields ρ → Prop
  | .none => True
  | .field first rest =>
      (first.name = name → ∀ value, first.read before = .ok value → first.read after = .ok value) ∧
        rest.ReadsAlike name before after

theorem Admits.perm {first second : List (String × Tree)} (admitted : fields.Admits first)
    (permuted : first.Perm second) : fields.Admits second where
  values member inside := admitted.values member (permuted.mem_iff.mpr inside)
  once := by
    refine (permuted.pairwise_iff ?_).mp admitted.once
    intro one other apart known same
    exact apart (same ▸ known) same.symm

theorem Valued.congr {first second : List (String × Tree)}
    (same : ∀ {name tree}, fields.hasName name = true →
      ((name, tree) ∈ first ↔ (name, tree) ∈ second))
    (valued : fields.Valued first values) : fields.Valued second values := by
  induction fields with
  | none => trivial
  | field field rest ih =>
      obtain ⟨held, others⟩ := valued
      have own {tree : Tree} : (field.name, tree) ∈ first ↔ (field.name, tree) ∈ second :=
        same (by simp [hasName])
      refine ⟨?_, ih (fun known => same (by simp [hasName, known])) others⟩
      cases held with
      | given inside read => exact .given (own.mp inside) read
      | missing absent usual =>
          exact .missing (fun tree inside => absent tree (own.mpr inside)) usual

private theorem readObject_perm {before after : List (List Piece × Tree)}
    (read : fields.readObject before .closed = .ok values) (permuted : before.Perm after) :
    fields.readObject after .closed = .ok values := by
  obtain ⟨named, texts, admitted, valued⟩ := readObject_eq_ok_iff.mp read
  obtain ⟨others, textsAfter, permutedNames⟩ := List.perm_comp_forall₂ permuted.symm texts
  exact readObject_eq_ok_iff.mpr ⟨others, textsAfter, admitted.perm permutedNames.symm,
    valued.congr fun _ => permutedNames.symm.mem_iff⟩

private theorem checkValue_of_unknown {tree : Tree} (unknown : fields.hasName name = false) :
    fields.checkValue name tree = tree.skip := by
  induction fields with
  | none => rfl
  | field first rest ih =>
      obtain ⟨different, others⟩ : first.name ≠ name ∧ rest.hasName name = false := by
        simpa [hasName] using unknown
      rw [checkValue, if_neg different, ih others]

private theorem readObject_cons_unknown {members : List (List Piece × Tree)} {key : List Piece}
    {tree : Tree} (read : fields.readObject members .closed = .ok values)
    (text : pieceText .closed key = .ok name) (unknown : fields.hasName name = false)
    (whole : tree.Whole) : fields.readObject ((key, tree) :: members) .closed = .ok values := by
  obtain ⟨named, texts, admitted, valued⟩ := readObject_eq_ok_iff.mp read
  refine readObject_eq_ok_iff.mpr
    ⟨(name, tree) :: named, .cons ⟨text, rfl⟩ texts, ⟨?_, ?_⟩, ?_⟩
  · refine List.forall_mem_cons.mpr ⟨?_, admitted.values⟩
    exact (checkValue_of_unknown unknown).trans whole.skip
  · refine .cons (fun _ _ known => ?_) admitted.once
    rw [unknown] at known
    cases known
  · refine valued.congr fun {other _} known => ?_
    have different : other ≠ name := by
      rintro rfl
      rw [unknown] at known
      cases known
    simp [different]

/-- A first member that is given once and read as the usual value may be left out. -/
theorem Valued.of_cons {named : List (String × Tree)} {tree : Tree}
    (once : fields.hasName name = true → ∀ other, (name, other) ∉ named)
    (usual : fields.ReadsUsual name tree)
    (valued : fields.Valued ((name, tree) :: named) values) : fields.Valued named values := by
  induction fields with
  | none => trivial
  | field first rest ih =>
      obtain ⟨ownUsual, restUsual⟩ := usual
      obtain ⟨held, others⟩ := valued
      refine ⟨?_, ih (fun known => once (by simp [hasName, known])) restUsual others⟩
      by_cases own : first.name = name
      · have absent := once (by simp [hasName, own])
        obtain ⟨usualValue, missing, usualRead⟩ := ownUsual own
        obtain rfl := Except.ok.inj (usualRead.symm.trans (held.read_head own absent))
        exact .missing (fun other => own ▸ absent other) missing
      · exact (Field.valued_cons_of_ne own).mp held

private theorem readObject_of_cons {members : List (List Piece × Tree)} {key : List Piece}
    {tree : Tree} (read : fields.readObject ((key, tree) :: members) .closed = .ok values)
    (text : pieceText .closed key = .ok name) (usual : fields.ReadsUsual name tree) :
    fields.readObject members .closed = .ok values := by
  obtain ⟨named, texts, admitted, valued⟩ := readObject_eq_ok_iff.mp read
  cases texts with
  | @cons _ first _ others own texts =>
      obtain ⟨other, value⟩ := first
      obtain ⟨ownText, rfl⟩ := own
      obtain rfl := Except.ok.inj (text.symm.trans ownText)
      obtain ⟨apart, once⟩ := List.pairwise_cons.mp admitted.once
      exact readObject_eq_ok_iff.mpr ⟨others, texts,
        ⟨(List.forall_mem_cons.mp admitted.values).2, once⟩,
        valued.of_cons (fun known other inside => apart _ inside known rfl) usual⟩

private theorem checkValue_of_readsAlike {before after : Tree} (known : fields.hasName name = true)
    (alike : fields.ReadsAlike name before after)
    (checked : fields.checkValue name before = .ok ()) :
    fields.checkValue name after = .ok () := by
  induction fields with
  | none => cases known
  | field first rest ih =>
      obtain ⟨ownAlike, restAlike⟩ := alike
      rw [checkValue] at checked ⊢
      by_cases own : first.name = name
      · rw [if_pos own] at checked ⊢
        cases read : first.read before with
        | error defect =>
            rw [read] at checked
            cases checked
        | ok value => rw [ownAlike own value read]; rfl
      · rw [if_neg own] at checked ⊢
        exact ih (by simpa [hasName, own] using known) restAlike checked

private theorem Valued.replace {named : List (String × Tree)} {before after : Tree}
    (once : fields.hasName name = true → ∀ other, (name, other) ∉ named)
    (alike : fields.ReadsAlike name before after)
    (valued : fields.Valued ((name, before) :: named) values) :
    fields.Valued ((name, after) :: named) values := by
  induction fields with
  | none => trivial
  | field first rest ih =>
      obtain ⟨ownAlike, restAlike⟩ := alike
      obtain ⟨held, others⟩ := valued
      refine ⟨?_, ih (fun known => once (by simp [hasName, known])) restAlike others⟩
      by_cases own : first.name = name
      · have read := held.read_head own (once (by simp [hasName, own]))
        exact .given (own ▸ List.mem_cons_self) (ownAlike own _ read)
      · exact (Field.valued_cons_of_ne own).mpr ((Field.valued_cons_of_ne own).mp held)

private theorem readObject_replace {members : List (List Piece × Tree)} {key : List Piece}
    {before after : Tree}
    (read : fields.readObject ((key, before) :: members) .closed = .ok values)
    (text : pieceText .closed key = .ok name) (known : fields.hasName name = true)
    (alike : fields.ReadsAlike name before after) :
    fields.readObject ((key, after) :: members) .closed = .ok values := by
  obtain ⟨named, texts, admitted, valued⟩ := readObject_eq_ok_iff.mp read
  cases texts with
  | @cons _ first _ others own texts =>
      obtain ⟨other, value⟩ := first
      obtain ⟨ownText, rfl⟩ := own
      obtain rfl := Except.ok.inj (text.symm.trans ownText)
      obtain ⟨checked, checkedOthers⟩ := List.forall_mem_cons.mp admitted.values
      obtain ⟨apart, once⟩ := List.pairwise_cons.mp admitted.once
      refine readObject_eq_ok_iff.mpr
        ⟨(name, after) :: others, .cons ⟨text, rfl⟩ texts, ⟨?_, .cons apart once⟩,
          valued.replace (fun known other inside => apart _ inside known rfl) alike⟩
      exact List.forall_mem_cons.mpr ⟨checkValue_of_readsAlike known alike checked, checkedOthers⟩

/-- One edit of the members of an object that is of no account to these fields. -/
inductive Edit (fields : Fields ρ) :
    (before after : List (List Piece × Tree)) → Prop where
  | permute {before after : List (List Piece × Tree)} :
      before.Perm after → Edit fields before after
  /-- Any whole value under a name that no field has. -/
  | insert {front back : List (List Piece × Tree)} {key : List Piece} {tree : Tree}
      {name : String} :
      pieceText .closed key = .ok name → fields.hasName name = false → tree.Whole →
      Edit fields (front ++ back) (front ++ (key, tree) :: back)
  /-- A value that its field has without a member, too. -/
  | remove {front back : List (List Piece × Tree)} {key : List Piece} {tree : Tree}
      {name : String} :
      pieceText .closed key = .ok name → fields.ReadsUsual name tree →
      Edit fields (front ++ (key, tree) :: back) (front ++ back)

private theorem Edit.readObject {before after : List (List Piece × Tree)}
    (edit : fields.Edit before after) (read : fields.readObject before .closed = .ok values) :
    fields.readObject after .closed = .ok values := by
  cases edit with
  | permute permuted => exact readObject_perm read permuted
  | insert text unknown whole =>
      exact readObject_perm (readObject_cons_unknown read text unknown whole) List.perm_middle.symm
  | remove text usual => exact readObject_of_cons (readObject_perm read List.perm_middle) text usual

end Editing

section Refusing

variable {fields : Fields ρ} {members : List (List Piece × Tree)}

/-- The names of the fields without a usual value. -/
def requiredNames {ρ : Type} : Fields ρ → List String
  | .none => []
  | .field first rest =>
      match first.whenMissing with
      | some _ => rest.requiredNames
      | Option.none => first.name :: rest.requiredNames

/-- What keeps members from being read as the values of fields, whatever else they are. -/
inductive Flawed (fields : Fields ρ) (members : List (List Piece × Tree)) : Prop where
  /-- Two of the members belong to one field. -/
  | repeated {name : String} {first second : List Piece × Tree}
      {others : List (List Piece × Tree)} :
      fields.hasName name = true → members.Perm (first :: second :: others) →
      pieceText .closed first.1 = .ok name → pieceText .closed second.1 = .ok name →
      Flawed fields members
  /-- No member belongs to a field that must be given. -/
  | lacking {name : String} :
      name ∈ fields.requiredNames →
      (∀ member ∈ members, pieceText .closed member.1 ≠ .ok name) → Flawed fields members

private theorem Valued.exists_of_required {named : List (String × Tree)} {values : ρ}
    {name : String} (valued : fields.Valued named values) (required : name ∈ fields.requiredNames) :
    ∃ tree, (name, tree) ∈ named := by
  induction fields with
  | none => cases required
  | field first rest ih =>
      obtain ⟨held, others⟩ := valued
      rw [requiredNames] at required
      cases held with
      | @given tree _ inside _ =>
          split at required
          · exact ih others required
          · cases required with
            | head => exact ⟨tree, inside⟩
            | tail _ behind => exact ih others behind
      | missing _ usual =>
          rw [usual] at required
          exact ih others required

private theorem Flawed.readObject_ne_ok (flawed : fields.Flawed members) (values : ρ) :
    fields.readObject members .closed ≠ .ok values := by
  intro read
  cases flawed with
  | repeated known permuted firstText secondText =>
      obtain ⟨named, texts, admitted, -⟩ := readObject_eq_ok_iff.mp (readObject_perm read permuted)
      cases texts with
      | cons first texts =>
          cases texts with
          | cons second texts =>
              have firstName := Except.ok.inj (firstText.symm.trans first.1)
              have secondName := Except.ok.inj (secondText.symm.trans second.1)
              have apart := (List.pairwise_cons.mp admitted.once).1 _ List.mem_cons_self
              exact apart (firstName ▸ known) (firstName.symm.trans secondName)
  | lacking required absent =>
      obtain ⟨named, texts, -, valued⟩ := readObject_eq_ok_iff.mp read
      obtain ⟨tree, inside⟩ := valued.exists_of_required required
      obtain ⟨member, inMembers, text, -⟩ := texts.exists_of_mem inside
      exact absent member inMembers text

end Refusing

section Closing

private theorem closed_of_checkStop {fields : Fields ρ} {seen : List String} {stop : ObjectStop}
    (checked : fields.checkStop seen stop = .ok ()) : stop = .closed := by
  cases stop with
  | closed => rfl
  | keyBroken pieces ending =>
      simp [checkStop, bind, exceptBind_eq_ok_iff] at checked
  | colonMissing key atEnd =>
      simp [checkStop, bind, exceptBind_eq_ok_iff] at checked
  | _ => cases checked

private theorem closed_of_readObject {fields : Fields ρ} {members : List (List Piece × Tree)}
    {stop : ObjectStop} {values : ρ} (read : fields.readObject members stop = .ok values) :
    stop = .closed := by
  simp only [readObject, bind, exceptBind_eq_ok_iff] at read
  obtain ⟨named, checked, -⟩ := read
  generalize ([] : List String) = seen at checked
  induction members generalizing seen named with
  | nil =>
      rw [checkMembers] at checked
      cases stopped : fields.checkStop seen stop with
      | error defect =>
          rw [stopped] at checked
          cases checked
      | ok _ => exact closed_of_checkStop stopped
  | cons member rest ih =>
      simp only [checkMembers, bind, exceptBind_eq_ok_iff] at checked
      obtain ⟨name, -, _, -, others, behind, -⟩ := checked
      exact ih others (name :: seen) behind

private theorem closed_of_readList {fields : Fields ρ} {whole : String} {stop : ListStop}
    {position : Nat} {items : List Tree} {values : ρ}
    (read : fields.readList whole stop position items = .ok values) : stop = .closed := by
  induction fields generalizing position items with
  | none =>
      cases items with
      | nil => cases stop <;> first | rfl | cases read
      | cons item items => cases item <;> cases read
  | field first rest ih =>
      cases items with
      | nil => cases stop <;> first | rfl | cases read
      | cons item items =>
          cases item with
          | closing => cases read
          | _ =>
              simp only [readList, bind, exceptBind_eq_ok_iff] at read
              obtain ⟨value, -, others, behind, -⟩ := read
              exact ih behind

end Closing

end Fields

namespace Codec

variable {α : Type} {codec : Codec α} {bytes : Bytes}

/-- Bytes that spell a tree hold what is read from the tree. -/
theorem ofBytes_of_spelled {tree : Tree} (spelled : tree.Spelled bytes) :
    codec.ofBytes bytes = codec.read tree := by
  rw [ofBytes, spelled.document, ofDocument]
  cases codec.read tree <;> rfl

private theorem document_of_ofBytes {value : α} (held : codec.ofBytes bytes = .ok value) :
    ∃ tree, Document.ofBytes bytes = ⟨tree, false⟩ ∧ codec.read tree = .ok value := by
  simp only [ofBytes, ofDocument, bind, exceptBind_eq_ok_iff] at held
  obtain ⟨other, read, checked⟩ := held
  rcases document : Document.ofBytes bytes with ⟨tree, trailing⟩
  rw [document] at read checked
  cases trailing with
  | true => cases checked
  | false =>
      obtain rfl := Except.ok.inj checked
      exact ⟨tree, rfl, read⟩

end Codec

namespace Record

variable {α : Type} {record : Record α}

theorem read_object_eq_ok_iff {members : List (List Piece × Tree)} {stop : ObjectStop}
    {value : α} :
    record.codec.read (.object members stop) = .ok value ↔
      ∃ values, record.fields.readObject members stop = .ok values ∧
        record.make values = value := by
  change (record.fields.readObject members stop).map record.make = .ok value ↔ _
  cases record.fields.readObject members stop <;> simp [Except.map]

/-- Only an object or a list with nothing broken off is read as a record. -/
theorem object_or_list_of_read {tree : Tree} {value : α}
    (read : record.codec.read tree = .ok value) :
    (∃ members, tree = .object members .closed) ∨ ∃ items, tree = .list items .closed := by
  cases tree with
  | object members stop =>
      obtain ⟨values, readValues, -⟩ := read_object_eq_ok_iff.mp read
      exact .inl ⟨members, by rw [Fields.closed_of_readObject readValues]⟩
  | list items stop =>
      change (record.fields.readList record.expectedLength stop 0 items).map record.make = _ at read
      cases readValues : record.fields.readList record.expectedLength stop 0 items with
      | error defect =>
          rw [readValues] at read
          cases read
      | ok values => exact .inr ⟨items, by rw [Fields.closed_of_readList readValues]⟩
  | _ => cases read

theorem read_of_edit {before after : List (List Piece × Tree)} {value : α}
    (edit : record.fields.Edit before after)
    (read : record.codec.read (.object before .closed) = .ok value) :
    record.codec.read (.object after .closed) = .ok value := by
  obtain ⟨values, readValues, same⟩ := read_object_eq_ok_iff.mp read
  exact read_object_eq_ok_iff.mpr ⟨values, edit.readObject readValues, same⟩

theorem read_of_replace {front back : List (List Piece × Tree)} {key : List Piece} {name : String}
    {before after : Tree} {value : α} (text : pieceText .closed key = .ok name)
    (known : record.fields.hasName name = true)
    (alike : record.fields.ReadsAlike name before after)
    (read : record.codec.read (.object (front ++ (key, before) :: back) .closed) = .ok value) :
    record.codec.read (.object (front ++ (key, after) :: back) .closed) = .ok value := by
  obtain ⟨values, readValues, same⟩ := read_object_eq_ok_iff.mp read
  have first := Fields.readObject_perm readValues List.perm_middle
  have replaced := Fields.readObject_replace first text known alike
  exact read_object_eq_ok_iff.mpr
    ⟨values, Fields.readObject_perm replaced List.perm_middle.symm, same⟩

/-- Every member of an object that is read passes the check of its name. -/
theorem checkValue_of_read {members : List (List Piece × Tree)} {value : α}
    (read : record.codec.read (.object members .closed) = .ok value) {member : List Piece × Tree}
    (inside : member ∈ members) {name : String} (text : pieceText .closed member.1 = .ok name) :
    record.fields.checkValue name member.2 = .ok () := by
  obtain ⟨values, readValues, -⟩ := read_object_eq_ok_iff.mp read
  obtain ⟨named, texts, admitted, -⟩ := Fields.readObject_eq_ok_iff.mp readValues
  obtain ⟨other, inNamed, otherText, same⟩ := texts.exists_of_mem_left inside
  obtain rfl := Except.ok.inj (text.symm.trans otherText)
  exact same ▸ admitted.values other inNamed

theorem read_ne_ok_of_flawed {members : List (List Piece × Tree)}
    (flawed : record.fields.Flawed members) (value : α) :
    record.codec.read (.object members .closed) ≠ .ok value := by
  intro read
  obtain ⟨values, readValues, -⟩ := read_object_eq_ok_iff.mp read
  exact flawed.readObject_ne_ok values readValues

/-- Nor is it read where only the defect counts, as in a member of a further record. -/
theorem checked_ne_ok_of_flawed {members : List (List Piece × Tree)}
    (flawed : record.fields.Flawed members) :
    (record.codec.read (.object members .closed)).map (fun _ => ()) ≠ .ok () := by
  intro checked
  cases read : record.codec.read (.object members .closed) with
  | ok value => exact read_ne_ok_of_flawed flawed value read
  | error defect =>
      rw [read] at checked
      cases checked

/-- Bytes that hold a record spell an object or a list. -/
theorem spelled_of_ofBytes {bytes : Bytes} {value : α}
    (held : record.codec.ofBytes bytes = .ok value) :
    (∃ members, (Tree.object members .closed).Spelled bytes) ∨
      ∃ items, (Tree.list items .closed).Spelled bytes := by
  obtain ⟨tree, document, read⟩ := Codec.document_of_ofBytes held
  obtain ⟨members, rfl⟩ | ⟨items, rfl⟩ := object_or_list_of_read read
  · exact .inl ⟨members, spelled_iff.mpr ⟨document, rfl⟩⟩
  · exact .inr ⟨items, spelled_iff.mpr ⟨document, rfl⟩⟩

end Record

end OverlayNet.Json
