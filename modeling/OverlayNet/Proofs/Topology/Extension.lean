import Mathlib
import OverlayNet.Proofs.Topology.Soundness

set_option autoImplicit false

/-! # Tables with devices at their end

New devices stand at the end of a table, with numbers that no earlier device has. Work on them
leaves the earlier ones alone, and the other way round. -/

namespace OverlayNet

namespace DeviceTable

/-- A table with more devices at its end and another count of used numbers. -/
def extend (table : DeviceTable) (added : List Device) (used : Nat) : DeviceTable :=
  ⟨table.devices ++ added, used⟩

variable {table : DeviceTable} {added : List Device} {used index : Nat} {holder : Option Path}
  {name : String} {change : Device → Device}

theorem add_eq_extend (table : DeviceTable) (name : String) (kind : DeviceKind) :
    table.add name kind = table.extend [Device.fresh (table.used + 1) name kind] (table.used + 1) :=
  rfl

theorem extend_extend (table : DeviceTable) (first second : List Device) (middle last : Nat) :
    (table.extend first middle).extend second last = table.extend (first ++ second) last := by
  simp [extend]

theorem find?_extend (table : DeviceTable) (added : List Device) (used : Nat)
    (holder : Option Path) (name : String) :
    (table.extend added used).find? holder name =
      (table.find? holder name).or
        (added.find? fun device => device.isHeldBy holder && device.name = name) := by
  rw [find?, extend, List.find?_append, find?]

theorem find?_extend_of_some {device : Device} (found : table.find? holder name = some device)
    (added : List Device) (used : Nat) :
    (table.extend added used).find? holder name = some device := by
  rw [find?_extend, found, Option.some_or]

theorem device?_extend (table : DeviceTable) (added : List Device) (used index : Nat) :
    (table.extend added used).device? index =
      (table.device? index).or (added.find? fun device => device.index = index) := by
  rw [device?, extend, List.find?_append, device?]

theorem adjust_extend (table : DeviceTable) (added : List Device) (used index : Nat)
    (change : Device → Device) :
    (table.extend added used).adjust index change =
      (table.adjust index change).extend
        (added.map fun device => if device.index = index then change device else device) used := by
  simp [adjust, extend]

theorem drop_extend (table : DeviceTable) (added : List Device) (used : Nat)
    (indices : List Nat) :
    (table.extend added used).drop indices =
      (table.drop indices).extend (added.filter fun device => device.index ∉ indices) used := by
  simp [drop, extend]

theorem device?_of_unused (unused : ∀ device ∈ table.devices, device.index ≠ index) :
    table.device? index = none := by
  rw [device?, List.find?_eq_none]
  simpa using unused

/-- A change of devices that are not there, or that are as they are changed to. -/
theorem adjust_of_unchanged
    (unchanged : ∀ device ∈ table.devices, device.index = index → change device = device) :
    table.adjust index change = table := by
  have same : table.devices.map (fun device =>
      if device.index = index then change device else device) = table.devices := by
    rw [List.map_congr_left (g := id), List.map_id]
    intro device member
    by_cases meant : device.index = index
    · rw [if_pos meant, unchanged device member meant, id]
    · rw [if_neg meant, id]
  rw [adjust, same]

theorem drop_of_unused {indices : List Nat}
    (unused : ∀ device ∈ table.devices, device.index ∉ indices) : table.drop indices = table := by
  have same : table.devices.filter (fun device => device.index ∉ indices) = table.devices := by
    rw [List.filter_eq_self]
    simpa using unused
  rw [drop, same]

end DeviceTable

namespace Topology

open DeviceTable (extend)

variable {table : DeviceTable} {used index : Nat} {change : Device → Device}
  {first second : Device}

theorem Numbered.unused (numbered : Numbered table) (fresh : table.used < index) :
    ∀ device ∈ table.devices, device.index ≠ index := by
  intro device member same
  have bound := numbered.bounded device member
  omega

section Added

variable (numbered : Numbered table) (fresh : table.used < index)

include numbered fresh

theorem adjust_added (added : List Device) (used : Nat) (change : Device → Device) :
    (table.extend added used).adjust index change =
      table.extend (added.map fun device => if device.index = index then change device else device)
        used := by
  rw [DeviceTable.adjust_extend, DeviceTable.adjust_of_unchanged]
  exact fun device member same => absurd same (numbered.unused fresh device member)

theorem device?_added (added : List Device) (used : Nat) :
    (table.extend added used).device? index =
      added.find? fun device => device.index = index := by
  rw [DeviceTable.device?_extend, DeviceTable.device?_of_unused (numbered.unused fresh),
    Option.none_or]

theorem change_added {added : List Device} {device : Device}
    (known : added.find? (fun device => device.index = index) = some device) (used : Nat)
    (change : Device → Device) :
    (table.extend added used).change index change =
      (.ok (), table.extend
        (added.map fun device => if device.index = index then change device else device) used) := by
  rw [DeviceTable.change, device?_added numbered fresh, known, ← adjust_added numbered fresh]

end Added

/-- A change of the only new device. -/
theorem change_single (numbered : Numbered table) (fresh : table.used < first.index) (used : Nat)
    (change : Device → Device) :
    (table.extend [first] used).change first.index change =
      (.ok (), table.extend [change first] used) := by
  have known : [first].find? (fun device => device.index = first.index) = some first := by simp
  rw [change_added numbered fresh known]
  simp

theorem Numbered.extend_single (numbered : Numbered table)
    (firstIndex : first.index = table.used + 1) :
    Numbered (table.extend [first] (table.used + 1)) := by
  have cases : ∀ device ∈ (table.extend [first] (table.used + 1)).devices,
      device ∈ table.devices ∨ device = first := by
    intro device member
    simpa [extend] using member
  have apart : ∀ device ∈ table.devices, device.index ≠ first.index := by
    rw [firstIndex]
    exact numbered.unused (Nat.lt_succ_self _)
  constructor
  case bounded =>
    intro device member
    rcases cases device member with earlier | rfl
    · exact (numbered.bounded device earlier).trans (Nat.le_succ _)
    · exact firstIndex.le
  case distinct =>
    intro device member other otherMember same
    rcases cases device member with earlier | rfl
    · rcases cases other otherMember with otherEarlier | rfl
      · exact numbered.distinct device earlier other otherEarlier same
      · exact absurd same (apart device earlier)
    · rcases cases other otherMember with otherEarlier | rfl
      · exact absurd same.symm (apart other otherEarlier)
      · rfl

section Pair

variable (numbered : Numbered table) (firstIndex : first.index = table.used + 1)
  (secondIndex : second.index = table.used + 2)

include numbered firstIndex secondIndex

theorem Numbered.extend_pair : Numbered (table.extend [first, second] (table.used + 2)) := by
  have both := (numbered.extend_single firstIndex).extend_single secondIndex
  rwa [DeviceTable.extend_extend] at both

theorem adjust_first (used : Nat) (change : Device → Device) :
    (table.extend [first, second] used).adjust first.index change =
      table.extend [change first, second] used := by
  have other : second.index ≠ first.index := by omega
  rw [adjust_added numbered (by omega)]
  simp [other]

theorem change_first (used : Nat) (change : Device → Device) :
    (table.extend [first, second] used).change first.index change =
      (.ok (), table.extend [change first, second] used) := by
  have other : second.index ≠ first.index := by omega
  have known : [first, second].find? (fun device => device.index = first.index) = some first := by
    simp
  rw [change_added numbered (by omega) known]
  simp [other]

theorem change_second (used : Nat) (change : Device → Device) :
    (table.extend [first, second] used).change second.index change =
      (.ok (), table.extend [first, change second] used) := by
  have other : first.index ≠ second.index := by omega
  have known : [first, second].find? (fun device => device.index = second.index) =
      some second := by
    simp [other]
  rw [change_added numbered (by omega) known]
  simp [other]

omit numbered in
theorem adjust_earlier (earlier : index ≤ table.used) (used : Nat) (change : Device → Device) :
    (table.extend [first, second] used).adjust index change =
      (table.adjust index change).extend [first, second] used := by
  have notFirst : first.index ≠ index := by omega
  have notSecond : second.index ≠ index := by omega
  rw [DeviceTable.adjust_extend]
  simp [notFirst, notSecond]

omit secondIndex in
theorem device?_first (used : Nat) :
    (table.extend [first, second] used).device? first.index = some first := by
  rw [device?_added numbered (by omega)]
  simp

theorem drop_pair :
    (table.extend [first, second] used).drop [first.index, second.index] =
      table.extend [] used := by
  rw [DeviceTable.drop_extend, DeviceTable.drop_of_unused]
  · simp
  · intro device member dropped
    have bound := numbered.bounded device member
    rcases List.mem_pair.mp dropped with same | same
    · omega
    · omega

end Pair

end Topology

end OverlayNet
