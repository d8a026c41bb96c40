import Mathlib
import OverlayNet.Operator.Session
import OverlayNet.Proofs.Configuration.Usable
import OverlayNet.Proofs.Files.WritableLocations
import OverlayNet.Proofs.Json.CodecLaws

set_option autoImplicit false

/-! # Configurations, written and read back

A usable configuration is read back from its text, and whatever is read as a configuration is a
usable one. -/

namespace OverlayNet

open Json (Codec Field Fields Record)

theorem Path.codec_lawful : Path.codec.Lawful :=
  Codec.transport_lawful (Codec.textAs_lawful _) fun _ => rfl

theorem Vxlan.codec_lawful : Vxlan.record.codec.Lawful := by
  apply Record.codec_lawful _ fun _ => rfl
  exact .field (Field.defaulted_lawful _ (Codec.textAs_lawful _) _) rfl <|
    .field (Field.defaulted_lawful _ Codec.word32_lawful _) rfl <|
      .field (Field.defaulted_lawful _ Codec.address_lawful _) rfl <|
        .field (Field.defaulted_lawful _ Codec.word16_lawful _) rfl .none

theorem Ledger.codec_lawful : Ledger.record.codec.Lawful := by
  apply Record.codec_lawful _ fun _ => rfl
  exact .field (Field.defaulted_lawful _ Path.codec_lawful _) rfl <|
    .field (Field.defaulted_lawful _ Codec.boolean_lawful _) rfl .none

namespace NetworkConfiguration

theorem codec_lawful : record.codec.Lawful := by
  apply Record.codec_lawful _ fun _ => rfl
  exact .field (Field.required_lawful _ (Codec.textAs_lawful _)) rfl <|
    .field (Field.required_lawful _ (Codec.textAs_lawful _)) rfl <|
      .field (Field.required_lawful _ (Codec.textAs_lawful _)) rfl <|
        .field (Field.required_lawful _ (Codec.textAs_lawful _)) rfl <|
          .field (Field.required_lawful _ (Codec.textAs_lawful _)) rfl <|
            .field (Field.required_lawful _ (Codec.textAs_lawful _)) rfl <|
              .field (Field.defaulted_lawful _ (Codec.textAs_lawful _) _) rfl <|
                .field (Field.defaulted_lawful _ Vxlan.codec_lawful _) rfl <|
                  .field (Field.defaulted_lawful _ Ledger.codec_lawful _) rfl <|
                    .field (Field.defaulted_lawful _ Codec.boolean_lawful _) rfl .none

variable {configuration : NetworkConfiguration}

-- What bytes hold is parsed exactly if it can be used.
theorem parse_eq_ok_iff {bytes : Bytes} {other : NetworkConfiguration}
    (held : record.codec.ofBytes bytes = .ok configuration) :
    parse bytes = .ok other ↔ configuration.Usable ∧ configuration = other := by
  have read : NetworkConfiguration.read bytes = .ok configuration := by
    rw [NetworkConfiguration.read, held]
    rfl
  simp only [parse, read, bind, exceptBind_eq_ok_iff, pure, Except.pure, Except.ok.injEq]
  constructor
  · rintro ⟨_, rfl, _, checked, same⟩
    exact ⟨check_eq_ok_iff.mp checked, same⟩
  · rintro ⟨usable, same⟩
    exact ⟨_, rfl, _, check_eq_ok_iff.mpr usable, same⟩

theorem parse_compact (usable : configuration.Usable) :
    parse (Bytes.ofText configuration.json.compact) = .ok configuration :=
  (parse_eq_ok_iff (Codec.ofBytes_compact codec_lawful configuration)).mpr ⟨usable, rfl⟩

theorem parse_pretty (usable : configuration.Usable) :
    parse (Bytes.ofText configuration.json.pretty) = .ok configuration :=
  (parse_eq_ok_iff (Codec.ofBytes_pretty codec_lawful configuration)).mpr ⟨usable, rfl⟩

theorem Usable.nodeSubnet (usable : configuration.Usable) :
    ∃ node, configuration.nodeSubnet = .ok node := by
  obtain ⟨cidr, parsed⟩ := usable.subnet
  exact ⟨cidr, by rw [NetworkConfiguration.nodeSubnet, Cidr.read, parsed]; rfl⟩

theorem Usable.clusterSubnet (usable : configuration.Usable) :
    ∃ cluster, configuration.clusterSubnet = .ok cluster := by
  obtain ⟨cidr, parsed⟩ := usable.clusterCidr
  exact ⟨cidr, by rw [NetworkConfiguration.clusterSubnet, Cidr.read, parsed]; rfl⟩

/-- A usable configuration is read back from both of its texts. Whatever bytes hold a
configuration, it is usable, its subnets can be read, and a file in which it is saved holds it
again. -/
theorem written_configuration_reads_back (configuration : NetworkConfiguration) :
    (configuration.Usable →
      parse (Bytes.ofText configuration.json.compact) = .ok configuration ∧
        parse (Bytes.ofText configuration.json.pretty) = .ok configuration) ∧
    ∀ bytes, parse bytes = .ok configuration →
      configuration.Usable ∧
      (∃ node, configuration.nodeSubnet = .ok node) ∧
      (∃ cluster, configuration.clusterSubnet = .ok cluster) ∧
      ∀ (files saved : Files.Tree) (path : Path),
        files.write path (Bytes.ofText configuration.json.pretty) = .ok saved →
          ∃ content, saved.read path = .ok content ∧ parse content = .ok configuration := by
  refine ⟨fun usable => ⟨parse_compact usable, parse_pretty usable⟩, ?_⟩
  intro bytes parsed
  have usable := usable_of_parse parsed
  refine ⟨usable, usable.nodeSubnet, usable.clusterSubnet, ?_⟩
  intro files saved path written
  exact ⟨_, Files.Tree.read_of_write written, parse_pretty usable⟩

/-- A configuration whose texts need escapes of every kind. -/
def awkward : NetworkConfiguration where
  version := "1.0.0"
  name := "a \"quoted\" \\ name\n\x01 é 😀"
  pluginType := "\t"
  subnet := "10.32.1.0/+024"
  clusterCidr := "10.32.0.0/16"
  uplink := "\\\"\x1f"
  bridge := "😀"
  vxlan := ⟨"/", 0xFFFFFF, ⟨0xEF010101⟩, 65535⟩
  ledger := ⟨⟨"/tmp/\r\x08\x0c"⟩, true⟩
  bridgeFilter := true

theorem written_configuration_reads_back_awkward :
    awkward.Usable ∧ parse (Bytes.ofText awkward.json.compact) = .ok awkward ∧
      parse (Bytes.ofText awkward.json.pretty) = .ok awkward := by
  have usable : awkward.Usable := by
    refine ⟨by decide, ⟨by decide, by decide⟩, ⟨by decide, by decide⟩, ⟨by decide, by decide⟩,
      by decide, ?_, ?_⟩
    · exact ⟨⟨⟨0x0a200100⟩, 24, by decide⟩, by decide +kernel⟩
    · exact ⟨⟨⟨0x0a200000⟩, 16, by decide⟩, by decide +kernel⟩
  exact ⟨usable, (written_configuration_reads_back awkward).1 usable⟩

end NetworkConfiguration

namespace Operator

variable {κ φ : Type} {generation : Generation}

/-- A usable configuration passes the check of the tool that generates it, and is printed as it
will be read. -/
theorem generate_of_usable (usable : generation.configuration.Usable)
    (printing : generation.output = none) (desk : Desk κ φ) :
    (generate generation).run desk =
      (.ok (),
        { desk with printed := desk.printed ++ [generation.configuration.json.pretty] }) := by
  rw [generate, NetworkConfiguration.parse_pretty usable, printing]
  rfl

/-- No other configuration is generated. -/
theorem generate_of_not_usable (unusable : ¬ generation.configuration.Usable) (desk : Desk κ φ) :
    ∃ defect, (generate generation).run desk = (.error (.generatedInvalid defect), desk) := by
  cases parsed : NetworkConfiguration.parse
      (Bytes.ofText generation.configuration.json.pretty) with
  | ok configuration =>
      have held := Codec.ofBytes_pretty NetworkConfiguration.codec_lawful generation.configuration
      exact absurd ((NetworkConfiguration.parse_eq_ok_iff held).mp parsed).1 unusable
  | error defect =>
      refine ⟨defect, ?_⟩
      rw [generate, parsed]
      rfl

end Operator

end OverlayNet
