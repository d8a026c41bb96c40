import Mathlib
import OverlayNet.Configuration.Network
import OverlayNet.Proofs.Procedure

set_option autoImplicit false

/-! # Usable configurations

The checks of a configuration, each as a condition, and what holds of a configuration that was
parsed. -/

namespace OverlayNet

namespace NetworkConfiguration

/-- Whether a text has between one byte and the most that the name of a device can have. -/
def NameFits (name : String) : Prop :=
  name ≠ "" ∧ Bytes.lengthOfText name ≤ Device.longestName

structure Usable (configuration : NetworkConfiguration) : Prop where
  version : configuration.version ∈ supportedVersions
  uplink : NameFits configuration.uplink
  bridge : NameFits configuration.bridge
  vxlan : NameFits configuration.vxlan.name
  identifier : configuration.vxlan.identifier ≤ greatestIdentifier
  subnet : ∃ cidr, Cidr.parse configuration.subnet = .ok cidr
  clusterCidr : ∃ cidr, Cidr.parse configuration.clusterCidr = .ok cidr

theorem checkName_eq_ok_iff {field name : String} {done : Unit} :
    checkName field name = .ok done ↔ NameFits name := by
  unfold checkName NameFits
  by_cases empty : name = ""
  · simp [empty]
  · by_cases long : Device.longestName < Bytes.lengthOfText name
    · simp [empty, long]
    · simp [empty, long, Nat.le_of_not_lt long]

theorem checkSubnet_eq_ok_iff {text : String} {done : Unit} :
    checkSubnet text = .ok done ↔ ∃ cidr, Cidr.parse text = .ok cidr := by
  unfold checkSubnet
  cases Cidr.parse text with
  | error defect => simp
  | ok cidr => simp

theorem check_eq_ok_iff {configuration : NetworkConfiguration} :
    configuration.check = .ok () ↔ configuration.Usable := by
  by_cases supported : configuration.version ∈ supportedVersions
  · by_cases great : greatestIdentifier < configuration.vxlan.identifier
    · have refused : ¬ configuration.check = .ok () := by
        simp [check, supported, great, bind, exceptBind_eq_ok_iff]
      have unusable : ¬ configuration.Usable := by
        intro usable
        exact UInt32.not_lt.mpr usable.identifier great
      simp [refused, unusable]
    · have checks : configuration.check = .ok () ↔
          NameFits configuration.uplink ∧ NameFits configuration.bridge ∧
            NameFits configuration.vxlan.name ∧
              (∃ cidr, Cidr.parse configuration.subnet = .ok cidr) ∧
                ∃ cidr, Cidr.parse configuration.clusterCidr = .ok cidr := by
        simp [check, supported, great, bind, exceptBind_eq_ok_iff, checkName_eq_ok_iff,
          checkSubnet_eq_ok_iff]
      rw [checks]
      constructor
      · intro passed
        obtain ⟨uplink, bridge, vxlan, subnet, clusterCidr⟩ := passed
        exact ⟨supported, uplink, bridge, vxlan, UInt32.not_lt.mp great, subnet, clusterCidr⟩
      · intro usable
        exact ⟨usable.uplink, usable.bridge, usable.vxlan, usable.subnet, usable.clusterCidr⟩
  · have refused : ¬ configuration.check = .ok () := by
      simp [check, supported, bind, Except.bind]
    have unusable : ¬ configuration.Usable := fun usable => supported usable.version
    simp [refused, unusable]

theorem usable_of_parse {bytes : Bytes} {configuration : NetworkConfiguration}
    (parsed : parse bytes = .ok configuration) : configuration.Usable := by
  simp only [parse, bind, exceptBind_eq_ok_iff] at parsed
  obtain ⟨candidate, -, ⟨⟩, checked, ⟨⟩⟩ := parsed
  exact check_eq_ok_iff.mp checked

theorem usual_usable (name : String) {subnet clusterCidr uplink : String} {node cluster : Cidr}
    (subnetRead : Cidr.parse subnet = .ok node) (clusterRead : Cidr.parse clusterCidr = .ok cluster)
    (fits : NameFits uplink) : (usual name subnet clusterCidr uplink).Usable where
  version := List.mem_singleton_self _
  uplink := fits
  bridge := (by decide : Topology.usualBridge ≠ "" ∧
    Bytes.lengthOfText Topology.usualBridge ≤ Device.longestName)
  vxlan := (by decide : Vxlan.usual.name ≠ "" ∧
    Bytes.lengthOfText Vxlan.usual.name ≤ Device.longestName)
  identifier := (by decide : Vxlan.usual.identifier ≤ greatestIdentifier)
  subnet := ⟨node, subnetRead⟩
  clusterCidr := ⟨cluster, clusterRead⟩

end NetworkConfiguration

end OverlayNet
