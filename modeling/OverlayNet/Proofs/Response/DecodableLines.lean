import Mathlib
import OverlayNet.Command
import OverlayNet.Proofs.Configuration.RoundTrip
import OverlayNet.Proofs.Json.NullMembers

set_option autoImplicit false

/-! # Responses are decodable lines

Whatever a command comes to, what it leaves on standard output is nothing or one line, and the line
is read back as the value for which it was written. The same holds of the records of which responses
consist, and of the layout of an installation. -/

namespace OverlayNet

namespace Json

/-- Whether none of the characters is a control character, such as a newline. -/
def Printable (characters : List Char) : Prop :=
  ∀ character ∈ characters, 0x20 ≤ character.toNat

section Printing

theorem Printable.append {first second : List Char} (firstPrintable : Printable first)
    (secondPrintable : Printable second) : Printable (first ++ second) :=
  fun character member => (List.mem_append.mp member).elim (firstPrintable character)
    (secondPrintable character)

theorem Printable.cons {character : Char} {rest : List Char} (visible : 0x20 ≤ character.toNat)
    (printable : Printable rest) : Printable (character :: rest) :=
  List.forall_mem_cons.mpr ⟨visible, printable⟩

theorem printable_nil : Printable [] :=
  fun _ member => nomatch member

theorem printable_escapedCharacter (character : Char) :
    Printable (escapedCharacter character) := by
  by_cases control : character.toNat < 0x20
  · obtain ⟨code, rfl⟩ : ∃ code : Fin 0x20, character = Char.ofNat code :=
      ⟨⟨character.toNat, control⟩, (Char.ofNat_toNat character).symm⟩
    clear control
    have all : ∀ code : Fin 0x20,
        (escapedCharacter (Char.ofNat code)).all (fun written => 0x20 ≤ written.toNat) = true := by
      decide
    simpa [Printable] using all code
  · by_cases escaped : character ∈ letterEscaped
    · simp only [letterEscaped, List.mem_cons, List.not_mem_nil, or_false] at escaped
      rcases escaped with rfl | rfl | rfl | rfl | rfl | rfl | rfl <;>
        simp [escapedCharacter, Printable]
    · rw [escapedCharacter_of_visible (Nat.le_of_not_lt control) escaped]
      exact printable_nil.cons (Nat.le_of_not_lt control)

theorem printable_writtenText (text : String) : Printable (writtenText text) := by
  apply Printable.cons (by decide)
  apply Printable.append _ (printable_nil.cons (by decide))
  intro character member
  obtain ⟨source, -, inside⟩ := List.mem_flatMap.mp member
  exact printable_escapedCharacter source character inside

theorem printable_digits (value : Nat) : Printable (Decimal.digits value) := by
  intro character member
  have low := (toNat_of_isDigit (Decimal.isDigit_of_mem_digits member)).1
  exact Nat.le_trans (by decide) low

mutual

/-- On one line a value is written without control characters, whatever its texts hold. -/
theorem printable_compact : (value : Json) → Printable value.compactCharacters
  | .null => by simp [Printable, compactCharacters]
  | .boolean true => by simp [Printable, compactCharacters, writtenBoolean]
  | .boolean false => by simp [Printable, compactCharacters, writtenBoolean]
  | .number value => printable_digits value
  | .text value => printable_writtenText value
  | .list items =>
      .cons (by decide) ((printable_compactItems items).append (printable_nil.cons (by decide)))
  | .object members =>
      .cons (by decide) ((printable_compactMembers members).append (printable_nil.cons (by decide)))

theorem printable_compactItems : (items : List Json) → Printable (compactItems items)
  | [] => printable_nil
  | [item] => printable_compact item
  | item :: next :: rest =>
      (printable_compact item).append ((printable_compactItems (next :: rest)).cons (by decide))

theorem printable_compactMembers :
    (members : List (String × Json)) → Printable (compactMembers members)
  | [] => printable_nil
  | [(key, value)] =>
      (printable_writtenText key).append ((printable_compact value).cons (by decide))
  | (key, value) :: next :: rest =>
      ((printable_writtenText key).append ((printable_compact value).cons (by decide))).append
        ((printable_compactMembers (next :: rest)).cons (by decide))

end

end Printing

end Json

open Json (Codec Field Fields Record)

theorem Layout.codec_lawful : Layout.record.codec.Lawful := by
  apply Record.codec_lawful _ fun _ => rfl
  exact .field (Field.required_lawful _ Path.codec_lawful) rfl <|
    .field (Field.required_lawful _ Path.codec_lawful) rfl <|
      .field (Field.required_lawful _ (Codec.textAs_lawful _)) rfl <|
        .field (Field.required_lawful _ (Codec.textAs_lawful _)) rfl .none

namespace Response

/-- Whether a text is the line of a value: compact JSON and a newline, with no control character
before that, from which the value is read back. -/
structure Carries {α : Type} (codec : Codec α) (text : String) (value : α) : Prop where
  written : text = (codec.write value).compact ++ "\n"
  oneLine : ∃ front, text.toList = front ++ ['\n'] ∧ Json.Printable front
  reads : codec.ofBytes (Bytes.ofText text) = .ok value

/-- Whether the values of a record are read back from what is written for them, whatever text they
come from, and the members of the given names may be null instead of missing. -/
structure RoundTrips {α : Type} (codec : Codec α) (optionalNames : List String) : Prop where
  reads : ∀ value, codec.ofBytes (Bytes.ofText (codec.write value).compact) = .ok value
  settled : ∀ {bytes value}, codec.ofBytes bytes = .ok value →
    Carries codec (line codec value) value
  nullIsAbsent : ∀ name ∈ optionalNames, codec.NullIsAbsent name

theorem carries_line {α : Type} {codec : Codec α} (lawful : codec.Lawful) (value : α) :
    Carries codec (line codec value) value := by
  refine ⟨rfl, ⟨_, ?_, Json.printable_compact (codec.write value)⟩, Codec.ofBytes_line lawful value⟩
  rw [line, String.toList_append, Json.compact, String.toList_ofList]
  rfl

theorem roundTrips_of_lawful {α : Type} {codec : Codec α} (lawful : codec.Lawful)
    {optionalNames : List String}
    (nullIsAbsent : ∀ name ∈ optionalNames, codec.NullIsAbsent name) :
    RoundTrips codec optionalNames where
  reads := Codec.ofBytes_compact lawful
  settled := fun {_ value} _ => carries_line lawful value
  nullIsAbsent := nullIsAbsent

section Records

theorem Interface.codec_lawful : Interface.record.codec.Lawful := by
  apply Record.codec_lawful _ fun _ => rfl
  exact .field (Field.required_lawful _ (Codec.textAs_lawful _)) rfl <|
    .field (Field.optional_lawful _ (Codec.textAs_lawful _) (Codec.textAs_solid _)) rfl <|
      .field (Field.optional_lawful _ (Codec.textAs_lawful _) (Codec.textAs_solid _)) rfl .none

theorem AddressEntry.codec_lawful : AddressEntry.record.codec.Lawful := by
  apply Record.codec_lawful _ fun _ => rfl
  exact .field (Field.optional_lawful _ (Codec.textAs_lawful _) (Codec.textAs_solid _)) rfl <|
    .field (Field.optional_lawful _ Codec.index_lawful Codec.index_solid) rfl <|
      .field (Field.required_lawful _ (Codec.textAs_lawful _)) rfl <|
        .field (Field.optional_lawful _ (Codec.textAs_lawful _) (Codec.textAs_solid _)) rfl .none

theorem Route.codec_lawful : Route.record.codec.Lawful := by
  apply Record.codec_lawful _ fun _ => rfl
  exact .field (Field.required_lawful _ (Codec.textAs_lawful _)) rfl <|
    .field (Field.optional_lawful _ (Codec.textAs_lawful _) (Codec.textAs_solid _)) rfl .none

theorem Result.codec_lawful : Result.record.codec.Lawful := by
  apply Record.codec_lawful _ fun _ => rfl
  exact .field (Field.required_lawful _ (Codec.textAs_lawful _)) rfl <|
    .field (Field.optional_lawful _ (Codec.list_lawful Interface.codec_lawful)
        (Codec.list_solid _)) rfl <|
      .field (Field.optional_lawful _ (Codec.list_lawful AddressEntry.codec_lawful)
          (Codec.list_solid _)) rfl <|
        .field (Field.optional_lawful _ (Codec.list_lawful Route.codec_lawful)
          (Codec.list_solid _)) rfl .none

theorem VersionReport.codec_lawful : VersionReport.record.codec.Lawful := by
  apply Record.codec_lawful _ fun _ => rfl
  exact .field (Field.required_lawful _ (Codec.textAs_lawful _)) rfl <|
    .field (Field.required_lawful _ (Codec.list_lawful (Codec.textAs_lawful _))) rfl .none

theorem ErrorReport.codec_lawful : ErrorReport.record.codec.Lawful := by
  apply Record.codec_lawful _ fun _ => rfl
  exact .field (Field.required_lawful _ (Codec.textAs_lawful _)) rfl <|
    .field (Field.required_lawful _ Codec.word32_lawful) rfl <|
      .field (Field.required_lawful _ (Codec.textAs_lawful _)) rfl <|
        .field (Field.required_lawful _ (Codec.textAs_lawful _)) rfl .none

theorem Interface.nullable {name : String} (optional : name ∈ ["mac", "sandbox"]) :
    Interface.record.fields.Nullable name := by
  simp only [List.mem_cons, List.not_mem_nil, or_false] at optional
  rcases optional with rfl | rfl
  · exact .behind (by decide) (Fields.nullable_optional _ rfl)
  · exact .behind (by decide) (.behind (by decide) (Fields.nullable_optional _ rfl))

theorem AddressEntry.nullable {name : String}
    (optional : name ∈ ["version", "interface", "gateway"]) :
    AddressEntry.record.fields.Nullable name := by
  simp only [List.mem_cons, List.not_mem_nil, or_false] at optional
  rcases optional with rfl | rfl | rfl
  · exact Fields.nullable_optional _ rfl
  · exact .behind (by decide) (Fields.nullable_optional _ rfl)
  · exact .behind (by decide) (.behind (by decide) (.behind (by decide)
      (Fields.nullable_optional _ rfl)))

theorem Route.nullable {name : String} (optional : name ∈ ["gw"]) :
    Route.record.fields.Nullable name := by
  obtain rfl := List.mem_singleton.mp optional
  exact .behind (by decide) (Fields.nullable_optional _ rfl)

theorem Result.nullable {name : String} (optional : name ∈ ["interfaces", "ips", "routes"]) :
    Result.record.fields.Nullable name := by
  simp only [List.mem_cons, List.not_mem_nil, or_false] at optional
  rcases optional with rfl | rfl | rfl
  · exact .behind (by decide) (Fields.nullable_optional _ rfl)
  · exact .behind (by decide) (.behind (by decide) (Fields.nullable_optional _ rfl))
  · exact .behind (by decide) (.behind (by decide) (.behind (by decide)
      (Fields.nullable_optional _ rfl)))

end Records

section Commands

variable {κ φ : Type}

/-- Whether a text is nothing, or the line of a response. -/
inductive Answers (text : String) : Prop where
  | silent : text = "" → Answers text
  | result (result : Result) : Carries Result.record.codec text result → Answers text
  | versions (report : VersionReport) :
      Carries VersionReport.record.codec text report → Answers text
  | fault (fault : Fault) :
      Carries ErrorReport.record.codec text (.ofFault interfaceVersion fault) → Answers text

theorem ensures_deliver {α : Type} {codec : Codec α} (lawful : codec.Lawful) (outlet : Outlet)
    (value : α) (host : Host κ φ) :
    Procedure.Ensures (Procedure.ofExcept (deliver outlet codec value))
      (fun text _ => Carries codec text value) (fun _ _ => True) host := by
  cases outlet with
  | reading => exact carries_line lawful value
  | failing cause => trivial

theorem ensures_run (channel : LinkChannel κ) (transport : Masquerade.Transport φ)
    (outlet : Outlet) (environment : Environment) (input : Bytes) (command : Command)
    (host : Host κ φ) :
    Procedure.Ensures (command.run channel transport outlet environment input)
      (fun text _ => Answers text) (fun _ _ => True) host := by
  cases command with
  | add =>
      apply Procedure.ensures_bind_of_forall
      intro subject _
      apply Procedure.ensures_bind_of_forall
      intro result later
      apply (ensures_deliver Result.codec_lawful outlet result later).mono
      · exact fun _ _ carries => .result result carries
      · exact fun _ _ _ => trivial
  | delete =>
      apply Procedure.ensures_bind_of_forall
      intro subject _
      apply Procedure.ensures_bind_of_forall
      intro _ _
      exact .silent rfl
  | version =>
      apply (ensures_deliver VersionReport.codec_lawful outlet .own host).mono
      · exact fun _ _ carries => .versions .own carries
      · exact fun _ _ _ => trivial
  | idle => exact .silent rfl

theorem ensures_runEnvironment (channel : LinkChannel κ) (transport : Masquerade.Transport φ)
    (outlet : Outlet) (environment : Environment) (input : Bytes) (host : Host κ φ) :
    Procedure.Ensures (Command.runEnvironment channel transport outlet environment input)
      (fun text _ => Answers text) (fun _ _ => True) host := by
  apply Procedure.Ensures.onFailure
  apply Procedure.ensures_bind_of_forall
  intro _ _
  apply Procedure.ensures_bind_of_forall
  intro name later
  unfold Command.dispatch
  split
  · exact ensures_run channel transport outlet environment input _ later
  · trivial

/-- What a command leaves on standard output is nothing, or the line of its result, of the supported
versions, or of its fault. -/
theorem answers_conclude (channel : LinkChannel κ) (transport : Masquerade.Transport φ)
    (outlet : Outlet) (environment : Environment) (input : Bytes) (host : Host κ φ) :
    Answers (Command.conclude ((Command.runEnvironment channel transport outlet environment
      input).outcome host).1).1 := by
  rcases (ensures_runEnvironment channel transport outlet environment input host).cases with
    ⟨fault, later, failed, -⟩ | ⟨text, later, done, answers⟩
  · rw [failed]
    exact .fault fault (carries_line ErrorReport.codec_lawful _)
  · rw [done]
    exact answers

end Commands

/-- Every response is one line that is read back as its value: whatever a command leaves on standard
output, every result and every report of versions that is delivered, and the report of every fault.
So are the records of which a response consists, and the layout of an installation. -/
theorem responses_are_decodable_lines {κ φ : Type} :
    (∀ (channel : LinkChannel κ) (transport : Masquerade.Transport φ) (outlet : Outlet)
        (environment : Environment) (input : Bytes) (host : Host κ φ),
      Answers (Command.conclude ((Command.runEnvironment channel transport outlet environment
        input).outcome host).1).1) ∧
    (∀ result, ∃ text, deliver .reading Result.record.codec result = .ok text ∧
      Carries Result.record.codec text result) ∧
    (∀ report, ∃ text, deliver .reading VersionReport.record.codec report = .ok text ∧
      Carries VersionReport.record.codec text report) ∧
    (∀ version fault,
      Carries ErrorReport.record.codec (line ErrorReport.record.codec (.ofFault version fault))
        (.ofFault version fault)) ∧
    RoundTrips Result.record.codec ["interfaces", "ips", "routes"] ∧
    RoundTrips VersionReport.record.codec [] ∧
    RoundTrips ErrorReport.record.codec [] ∧
    RoundTrips Interface.record.codec ["mac", "sandbox"] ∧
    RoundTrips AddressEntry.record.codec ["version", "interface", "gateway"] ∧
    RoundTrips Route.record.codec ["gw"] ∧
    RoundTrips Layout.record.codec [] := by
  refine ⟨answers_conclude, ?results, ?versions, ?faults, ?_, ?_, ?_, ?_, ?_, ?_, ?_⟩
  case results => exact fun result => ⟨_, rfl, carries_line Result.codec_lawful result⟩
  case versions => exact fun report => ⟨_, rfl, carries_line VersionReport.codec_lawful report⟩
  case faults => exact fun version fault => carries_line ErrorReport.codec_lawful _
  · exact roundTrips_of_lawful Result.codec_lawful fun _ optional =>
      Record.nullIsAbsent (Result.nullable optional)
  · exact roundTrips_of_lawful VersionReport.codec_lawful (List.forall_mem_nil _)
  · exact roundTrips_of_lawful ErrorReport.codec_lawful (List.forall_mem_nil _)
  · exact roundTrips_of_lawful Interface.codec_lawful fun _ optional =>
      Record.nullIsAbsent (Interface.nullable optional)
  · exact roundTrips_of_lawful AddressEntry.codec_lawful fun _ optional =>
      Record.nullIsAbsent (AddressEntry.nullable optional)
  · exact roundTrips_of_lawful Route.codec_lawful fun _ optional =>
      Record.nullIsAbsent (Route.nullable optional)
  · exact roundTrips_of_lawful Layout.codec_lawful (List.forall_mem_nil _)

/-- A document in which a route has null for its gateway. -/
def nullGateway : Json :=
  .object [("gw", .null), ("dst", .text "0.0.0.0/0\n")]

theorem responses_are_decodable_lines_nullGateway :
    Route.record.codec.ofBytes (Bytes.ofText nullGateway.compact) =
        .ok ⟨"0.0.0.0/0\n", none⟩ ∧
      Carries Route.record.codec (line Route.record.codec ⟨"0.0.0.0/0\n", none⟩)
        ⟨"0.0.0.0/0\n", none⟩ := by
  have accepted : Route.record.codec.ofBytes (Bytes.ofText nullGateway.compact) =
      .ok ⟨"0.0.0.0/0\n", none⟩ := by
    rw [Codec.ofBytes, Json.document_compact]
    rfl
  obtain ⟨-, -, -, -, -, -, -, -, -, routes, -⟩ :=
    responses_are_decodable_lines (κ := Unit) (φ := Unit)
  exact ⟨accepted, routes.settled accepted⟩

end Response

end OverlayNet
