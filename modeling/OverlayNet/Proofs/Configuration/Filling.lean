import Mathlib
import OverlayNet.Configuration.Installation
import OverlayNet.Proofs.Address.Spelling
import OverlayNet.Proofs.Configuration.RoundTrip
import OverlayNet.Proofs.Text.Replacement

set_option autoImplicit false

/-! # Templates, filled in

To fill in the printed form of a value is to fill in its texts. So the usual template, filled in for
a subnet, is the printed form of the usual configuration of that subnet. -/

namespace OverlayNet

namespace Json

mutual

/-- A value with all of its texts changed, the keys too. -/
def mapTexts (change : String → String) : Json → Json
  | .null => .null
  | .boolean value => .boolean value
  | .number value => .number value
  | .text value => .text (change value)
  | .list items => .list (mapItemTexts change items)
  | .object members => .object (mapMemberTexts change members)

def mapItemTexts (change : String → String) : List Json → List Json
  | [] => []
  | item :: rest => mapTexts change item :: mapItemTexts change rest

def mapMemberTexts (change : String → String) : List (String × Json) → List (String × Json)
  | [] => []
  | (key, value) :: rest => (change key, mapTexts change value) :: mapMemberTexts change rest

end

end Json

namespace Template

open Json

/-- The characters of a text with the subnet in place of every placeholder. -/
def filled (subnet : String) (characters : List Char) : List Char :=
  Text.replaceAll placeholder.toList subnet.toList characters

/-- Whether a text is written in JSON as it is. -/
def Verbatim (text : String) : Prop :=
  text.toList.flatMap escapedCharacter = text.toList

private theorem toList_placeholder : placeholder.toList =
    ['\x7b', '\x7b', 'S', 'U', 'B', 'N', 'E', 'T', '\x7d', '\x7d'] :=
  rfl

-- No escape uses a brace or a capital letter.
private theorem escapedCharacter_eq_singleton_or (character : Char) :
    escapedCharacter character = [character] ∨
      (escapedCharacter character ≠ [] ∧
        (escapedCharacter character).all (· ∉ placeholder.toList) = true) := by
  rw [toList_placeholder]
  by_cases escaped : character ∈ letterEscaped
  · simp only [letterEscaped, List.mem_cons, List.not_mem_nil, or_false] at escaped
    rcases escaped with rfl | rfl | rfl | rfl | rfl | rfl | rfl <;> exact .inr (by decide)
  · by_cases control : character.toNat < 0x20
    · have all : ∀ code : Fin 0x20, escapedCharacter (Char.ofNat code) ≠ [] ∧
          (escapedCharacter (Char.ofNat code)).all
            (· ∉ ['\x7b', '\x7b', 'S', 'U', 'B', 'N', 'E', 'T', '\x7d', '\x7d']) = true := by
        decide +kernel
      have own := all ⟨character.toNat, control⟩
      rw [Char.ofNat_toNat] at own
      exact .inr own
    · exact .inl (escapedCharacter_of_visible (Nat.le_of_not_lt control) escaped)

private theorem spared_placeholder : Text.Spared escapedCharacter placeholder.toList where
  nonempty character := by
    rcases escapedCharacter_eq_singleton_or character with alone | ⟨nonempty, -⟩
    · simp [alone]
    · exact nonempty
  alone kept member character used := by
    rcases escapedCharacter_eq_singleton_or character with alone | ⟨-, others⟩
    · exact alone
    · exact absurd member (by simpa using List.all_eq_true.mp others kept used)

section Printing

variable {subnet : String}

private theorem filled_append_of_not_mem {front : List Char} (missing : '\x7b' ∉ front)
    (rest : List Char) : filled subnet (front ++ rest) = front ++ filled subnet rest :=
  Text.replaceAll_append_of_not_mem subnet.toList missing rest

theorem filled_cons_of_ne {character : Char} (other : character ≠ '\x7b') (rest : List Char) :
    filled subnet (character :: rest) = character :: filled subnet rest := by
  have missing : '\x7b' ∉ [character] := by simpa using other.symm
  exact filled_append_of_not_mem missing rest

-- No placeholder starts with a single brace.
private theorem filled_brace {next : Char} (other : next ≠ '\x7b') (rest : List Char) :
    filled subnet ('\x7b' :: next :: rest) = '\x7b' :: filled subnet (next :: rest) := by
  apply Text.replaceAll_cons
  intro occurs
  obtain ⟨-, second⟩ := List.cons_prefix_cons.mp occurs
  exact other (List.cons_prefix_cons.mp second).1.symm

private theorem filled_indentation (level : Nat) (rest : List Char) :
    filled subnet (indentation level ++ rest) = indentation level ++ filled subnet rest := by
  apply filled_append_of_not_mem
  intro member
  have blank := blank_indentation level _ member
  revert blank
  decide

-- Behind the brace that opens an object a new line starts.
private theorem filled_openBrace (member : String × Json) (others : List (String × Json))
    (level : Nat) (rest : List Char) :
    filled subnet ('\x7b' :: (prettyMembers level (member :: others) ++ rest)) =
      '\x7b' :: filled subnet (prettyMembers level (member :: others) ++ rest) := by
  cases others with
  | nil => exact filled_brace (by decide) _
  | cons next others => exact filled_brace (by decide) _

private theorem filled_writtenText (verbatim : Verbatim subnet) (text : String) (rest : List Char) :
    filled subnet (writtenText text ++ rest) =
      writtenText (render text subnet) ++ filled subnet rest := by
  have escapes : filled subnet (text.toList.flatMap escapedCharacter) =
      (render text subnet).toList.flatMap escapedCharacter := by
    rw [render, String.toList_ofList]
    exact Text.replaceAll_flatMap spared_placeholder (by decide) (by decide) verbatim text.toList
  have split : filled subnet (text.toList.flatMap escapedCharacter ++ '"' :: rest) =
      filled subnet (text.toList.flatMap escapedCharacter) ++ '"' :: filled subnet rest :=
    Text.replaceAll_append_separator (by decide) subnet.toList (by decide) _ rest
  simp only [writtenText, List.cons_append, List.append_assoc, List.nil_append]
  rw [filled_cons_of_ne (by decide), split, escapes]

mutual

/-- To fill in what is printed for a value is to print the value with its texts filled in. -/
theorem filled_prettyCharacters (verbatim : Verbatim subnet) (value : Json) (level : Nat)
    (rest : List Char) :
    filled subnet (value.prettyCharacters level ++ rest) =
      (value.mapTexts (render · subnet)).prettyCharacters level ++ filled subnet rest := by
  cases value with
  | null =>
      have missing : '\x7b' ∉ "null".toList := by decide
      exact filled_append_of_not_mem missing rest
  | boolean value =>
      have missing : '\x7b' ∉ writtenBoolean value := by cases value <;> decide
      exact filled_append_of_not_mem missing rest
  | number value => exact filled_append_of_not_mem (Decimal.not_mem_digits rfl value) rest
  | text value => exact filled_writtenText verbatim value rest
  | list items =>
      cases items with
      | nil =>
          have missing : '\x7b' ∉ "[]".toList := by decide
          exact filled_append_of_not_mem missing rest
      | cons item others =>
          simp only [prettyCharacters, mapTexts, List.append_assoc, List.cons_append]
          rw [filled_cons_of_ne (by decide), filled_prettyItems verbatim (item :: others)]
          simp only [mapItemTexts, List.append_assoc, List.cons_append]
          rw [filled_indentation, List.nil_append, filled_cons_of_ne (by decide)]
          rfl
  | object members =>
      cases members with
      | nil =>
          exact (filled_brace (by decide) _).trans
            (congrArg _ (filled_cons_of_ne (by decide) rest))
      | cons member others =>
          simp only [prettyCharacters, mapTexts, List.append_assoc, List.cons_append]
          rw [filled_openBrace, filled_prettyMembers verbatim (member :: others)]
          simp only [mapMemberTexts, List.append_assoc, List.cons_append]
          rw [filled_indentation, List.nil_append, filled_cons_of_ne (by decide)]
          rfl

theorem filled_prettyItems (verbatim : Verbatim subnet) (items : List Json) (level : Nat)
    (rest : List Char) :
    filled subnet (prettyItems level items ++ rest) =
      prettyItems level (mapItemTexts (render · subnet) items) ++ filled subnet rest := by
  match items with
  | [] => rfl
  | [item] =>
      simp only [prettyItems, mapItemTexts, List.append_assoc]
      rw [filled_indentation, filled_prettyCharacters verbatim item level rest]
  | item :: next :: others =>
      have behind := filled_prettyItems verbatim (next :: others) level rest
      simp only [prettyItems, mapItemTexts, List.append_assoc, List.cons_append] at behind ⊢
      rw [filled_indentation, filled_prettyCharacters verbatim item level,
        filled_cons_of_ne (by decide),
        behind]

theorem filled_prettyMembers (verbatim : Verbatim subnet) (members : List (String × Json))
    (level : Nat) (rest : List Char) :
    filled subnet (prettyMembers level members ++ rest) =
      prettyMembers level (mapMemberTexts (render · subnet) members) ++ filled subnet rest := by
  match members with
  | [] => rfl
  | [(key, value)] =>
      simp only [prettyMembers, mapMemberTexts, List.append_assoc, List.cons_append]
      rw [filled_indentation, filled_writtenText verbatim, filled_cons_of_ne (by decide),
        filled_cons_of_ne (by decide), filled_prettyCharacters verbatim value level rest]
  | (key, value) :: next :: others =>
      have behind := filled_prettyMembers verbatim (next :: others) level rest
      simp only [prettyMembers, mapMemberTexts, List.append_assoc, List.cons_append] at behind ⊢
      rw [filled_indentation, filled_writtenText verbatim, filled_cons_of_ne (by decide),
        filled_cons_of_ne (by decide), filled_prettyCharacters verbatim value level,
        filled_cons_of_ne (by decide), behind]

end

private theorem render_pretty (verbatim : Verbatim subnet) (value : Json) :
    render value.pretty subnet = (value.mapTexts (render · subnet)).pretty := by
  have characters := filled_prettyCharacters verbatim value 0 []
  have empty : filled subnet [] = [] := rfl
  rw [empty, List.append_nil, List.append_nil] at characters
  rw [render, pretty, String.toList_ofList, pretty, ← characters]
  rfl

end Printing

section Usual

variable {subnet clusterCidr uplink : String}

-- Neither a digit nor one of the marks between digits is escaped.
private theorem verbatim_of_parse {text : String} {cidr : Cidr}
    (read : Cidr.parse text = .ok cidr) :
    Verbatim text := by
  have plain : ∀ character ∈ text.toList, escapedCharacter character = [character] := by
    intro character member
    rcases Cidr.character_of_parse read member with mark | digit
    · simp only [List.mem_cons, List.not_mem_nil, or_false] at mark
      rcases mark with rfl | rfl | rfl <;> rfl
    · obtain ⟨low, -⟩ := toNat_of_isDigit digit
      apply escapedCharacter_of_visible (Nat.le_trans (by decide) low)
      intro escaped
      simp only [letterEscaped, List.mem_cons, List.not_mem_nil, or_false] at escaped
      rcases escaped with rfl | rfl | rfl | rfl | rfl | rfl | rfl <;> cases digit
  rw [Verbatim, List.flatMap_congr plain, List.flatMap_singleton']

theorem render_eq_self {text : String}
    (absent : Text.occursIn placeholder.toList text.toList = false) :
    render text subnet = text := by
  rw [render, Text.replaceAll_eq_self _ absent, String.ofList_toList]

private theorem render_placeholder : render placeholder subnet = subnet := by
  have nonempty : placeholder.toList ≠ [] := by decide
  have whole := Text.replaceAll_pattern_append nonempty subnet.toList []
  have empty : Text.replaceAll placeholder.toList subnet.toList [] = [] := rfl
  rw [empty, List.append_nil, List.append_nil] at whole
  rw [render, whole, String.ofList_toList]

/-- The text of a subnet has a slash in it, and no character of a placeholder. -/
theorem lacks_of_parse {text : String} {cidr : Cidr} (read : Cidr.parse text = .ok cidr) :
    text.toList ≠ [] ∧ ∀ character ∈ text.toList, character ∉ placeholder.toList := by
  constructor
  · obtain ⟨before, after, split, -⟩ := Cidr.parse_eq_ok_iff.mp read
    simp [split]
  · intro character member needed
    rw [toList_placeholder] at needed
    rcases Cidr.character_of_parse read member with mark | digit
    · simp only [List.mem_cons, List.not_mem_nil, or_false] at mark
      rcases mark with rfl | rfl | rfl <;> revert needed <;> decide
    · simp only [List.mem_cons, List.not_mem_nil, or_false] at needed
      rcases needed with rfl | rfl | rfl | rfl | rfl | rfl | rfl | rfl | rfl | rfl <;> cases digit

private theorem render_of_parse {text : String} {cidr : Cidr} (read : Cidr.parse text = .ok cidr) :
    render text subnet = text := by
  apply render_eq_self
  have needed : '\x7b' ∈ placeholder.toList := by decide
  apply Text.occursIn_eq_false_of_not_mem needed
  exact fun member => (lacks_of_parse read).2 _ member needed

end Usual

end Template

namespace NetworkConfiguration

private theorem json_eq (configuration : NetworkConfiguration) :
    configuration.json = .object [
      ("cniVersion", .text configuration.version),
      ("name", .text configuration.name),
      ("type", .text configuration.pluginType),
      ("subnet", .text configuration.subnet),
      ("clusterCidr", .text configuration.clusterCidr),
      ("hostPhysicalInterface", .text configuration.uplink),
      ("bridge", .text configuration.bridge),
      ("vxlan", .object [
        ("name", .text configuration.vxlan.name),
        ("vni", .number configuration.vxlan.identifier.toNat),
        ("group", .text configuration.vxlan.group.text),
        ("port", .number configuration.vxlan.port.toNat)]),
      ("ledger", .object [
        ("path", .text configuration.ledger.path.text),
        ("lock", .boolean configuration.ledger.locked)]),
      ("brNetfilter", .boolean configuration.bridgeFilter)] :=
  rfl

end NetworkConfiguration

namespace Installation

variable {κ φ : Type}

/-- Where the configuration is installed, a file holds the template filled in. -/
theorem installConfiguration_writes (layout : Layout) (template subnet : String)
    (host : Host κ φ) :
    Procedure.Ensures (installConfiguration layout template subnet)
      (fun target later =>
        later.files.read target = .ok (Bytes.ofText (Template.render template subnet)))
      (fun _ _ => True) host := by
  apply Procedure.ensures_bind_of_forall
  intro _ checked
  apply Procedure.ensures_bind_of_forall
  intro _ made
  apply Procedure.ensures_bind.mpr
  cases written : made.files.write layout.configurationTarget
      (Bytes.ofText (Template.render template subnet)) with
  | error cause =>
      exact (Procedure.ensures_of_error
        (Procedure.outcome_changeFiles_error written _)).mpr trivial
  | ok saved =>
      exact (Procedure.ensures_of_ok (Procedure.outcome_changeFiles_ok written _)).mpr
        (Files.Tree.read_of_write written)

end Installation

namespace Template

variable {κ φ : Type} {subnet clusterCidr uplink : String} {node cluster : Cidr}

private theorem render_usual (subnetRead : Cidr.parse subnet = .ok node)
    (clusterRead : Cidr.parse clusterCidr = .ok cluster)
    (absent : Text.occursIn placeholder.toList uplink.toList = false) :
    render (usual clusterCidr uplink).json.pretty subnet =
      (NetworkConfiguration.usual "sknf-network" subnet clusterCidr uplink).json.pretty := by
  rw [render_pretty (verbatim_of_parse subnetRead), NetworkConfiguration.json_eq,
    NetworkConfiguration.json_eq]
  simp only [Json.mapTexts, Json.mapMemberTexts, usual, NetworkConfiguration.usual,
    render_placeholder, render_of_parse clusterRead, render_eq_self absent]
  simp (disch := decide) only [render_eq_self]

/-- What is installed without a template of one's own is read as the usual configuration, in which
the subnet, the network of the cluster and the uplink stand as they were given. -/
theorem usual_template_reads_back (subnetRead : Cidr.parse subnet = .ok node)
    (clusterRead : Cidr.parse clusterCidr = .ok cluster)
    (fits : NetworkConfiguration.NameFits uplink)
    (absent : Text.occursIn placeholder.toList uplink.toList = false) :
    ∃ configuration,
      NetworkConfiguration.parse
          (Bytes.ofText (render (usual clusterCidr uplink).json.pretty subnet)) =
        .ok configuration ∧
      configuration = .usual "sknf-network" subnet clusterCidr uplink ∧
      configuration.version = "1.0.0" ∧ configuration.name = "sknf-network" ∧
      configuration.pluginType = "sknf" ∧ configuration.subnet = subnet ∧
      configuration.clusterCidr = clusterCidr ∧ configuration.uplink = uplink ∧
      configuration.bridge = "brsknf" ∧
      configuration.vxlan = ⟨"vxsknf", 100, ⟨0xEF010164⟩, 4789⟩ ∧
      configuration.ledger = ⟨⟨"/tmp/sknf-cni-ips"⟩, false⟩ ∧
      configuration.bridgeFilter = false ∧
      ∀ (layout : Layout) (host later : Host κ φ) (target : Path),
        (Installation.installConfiguration layout (usual clusterCidr uplink).json.pretty
          subnet).outcome host = (.ok target, later) →
        ∃ content, later.files.read target = .ok content ∧
          NetworkConfiguration.parse content = .ok configuration := by
  have parsed := NetworkConfiguration.parse_pretty
    (NetworkConfiguration.usual_usable "sknf-network" subnetRead clusterRead fits)
  rw [← render_usual subnetRead clusterRead absent] at parsed
  have overlay : Vxlan.usual = ⟨"vxsknf", 100, ⟨0xEF010164⟩, 4789⟩ := by decide
  refine ⟨_, parsed, rfl, rfl, rfl, rfl, rfl, rfl, rfl, rfl, overlay, rfl, rfl, ?_⟩
  intro layout host later target installed
  have written := (Procedure.ensures_of_ok installed).mp
    (Installation.installConfiguration_writes layout _ subnet host)
  exact ⟨_, written, parsed⟩

def nearbyLayout : Layout := ⟨⟨"bin"⟩, ⟨"net.d"⟩, "sknf", "10-sknf.conf"⟩

theorem usual_template_reads_back_partialPlaceholder :
    ∃ configuration later content,
      NetworkConfiguration.parse (Bytes.ofText (render
          (usual "10.32.0.0/16" "\x7b\x7bSUBNET\x7d").json.pretty "10.32.1.0/+024")) =
        .ok configuration ∧
      configuration.subnet = "10.32.1.0/+024" ∧ configuration.uplink = "\x7b\x7bSUBNET\x7d" ∧
      (Installation.installConfiguration nearbyLayout
        (usual "10.32.0.0/16" "\x7b\x7bSUBNET\x7d").json.pretty "10.32.1.0/+024").outcome
          Host.bare = (.ok nearbyLayout.configurationTarget, later) ∧
      later.files.read nearbyLayout.configurationTarget = .ok content ∧
      NetworkConfiguration.parse content = .ok configuration := by
  have subnetRead : Cidr.parse "10.32.1.0/+024" = .ok ⟨⟨0x0a200100⟩, 24, by decide⟩ := by
    decide +kernel
  have clusterRead : Cidr.parse "10.32.0.0/16" = .ok ⟨⟨0x0a200000⟩, 16, by decide⟩ := by
    decide +kernel
  have fits : NetworkConfiguration.NameFits "\x7b\x7bSUBNET\x7d" := ⟨by decide, by decide⟩
  have absent : Text.occursIn placeholder.toList "\x7b\x7bSUBNET\x7d".toList = false := by
    decide +kernel
  obtain ⟨configuration, parsed, -, -, -, -, isSubnet, -, isUplink, -, -, -, -, installs⟩ :=
    usual_template_reads_back (κ := Unit) (φ := Unit) subnetRead clusterRead fits absent
  have succeeds : ((Installation.installConfiguration nearbyLayout
      (usual "10.32.0.0/16" "\x7b\x7bSUBNET\x7d").json.pretty "10.32.1.0/+024").outcome
        Host.bare).1 = .ok nearbyLayout.configurationTarget := by
    decide +kernel
  have installed := Prod.ext (y := (_, _)) succeeds rfl
  obtain ⟨content, read, again⟩ := installs nearbyLayout Host.bare _ _ installed
  exact ⟨configuration, _, content, parsed, isSubnet, isUplink, installed, read, again⟩

end Template

end OverlayNet
