import Mathlib
import OverlayNet.Link.DeviceTable

set_option autoImplicit false

/-! # Looking devices up in a changed table

What a lookup by name finds after a device was added, changed or taken away. -/

namespace OverlayNet

@[simp]
theorem Device.isHeldBy_none (device : Device) :
    device.isHeldBy none = decide (device.holder = none) := by
  simp [Device.isHeldBy]

@[simp]
theorem Device.isHeldBy_fresh (index : Nat) (name : String) (kind : DeviceKind)
    (holder : Option Path) :
    (Device.fresh index name kind).isHeldBy holder = decide (holder = none) := by
  cases holder <;> simp [Device.isHeldBy, Device.fresh]

/-- No namespace is the host. -/
theorem Device.isNone_of_isHeldBy {device : Device} {holder : Option Path}
    (held : device.isHeldBy holder = true) : holder.isNone = device.holder.isNone := by
  simp only [isHeldBy, decide_eq_true_eq] at held
  have sides := congrArg Option.isNone held
  rw [Option.isNone_map, Option.isNone_map] at sides
  exact sides.symm

/-- A device that is moved nowhere is held as before. -/
theorem Device.isHeldBy_congr {device changed : Device} (same : changed.holder = device.holder)
    (holder : Option Path) : changed.isHeldBy holder = device.isHeldBy holder := by
  rw [isHeldBy, isHeldBy, same]

namespace DeviceTable

variable {table : DeviceTable} {holder : Option Path} {name : String} {device : Device}

theorem of_find? (found : table.find? holder name = some device) :
    device ∈ table.devices ∧ device.isHeldBy holder = true ∧ device.name = name := by
  have matching := List.find?_some found
  simp only [Bool.and_eq_true, decide_eq_true_eq] at matching
  exact ⟨List.mem_of_find?_eq_some found, matching.1, matching.2⟩

theorem of_find?_host (found : table.find? none name = some device) :
    device ∈ table.devices ∧ device.holder = none ∧ device.name = name := by
  obtain ⟨member, held, named⟩ := of_find? found
  exact ⟨member, by simpa using held, named⟩

theorem find?_add (table : DeviceTable) (added : String) (kind : DeviceKind)
    (holder : Option Path) (name : String) :
    (table.add added kind).find? holder name =
      (table.find? holder name).or
        (if holder = none ∧ added = name then some (Device.fresh (table.used + 1) added kind)
        else none) := by
  rw [find?, add, List.find?_append, List.find?_singleton]
  by_cases matching : holder = none ∧ added = name
  · obtain ⟨rfl, rfl⟩ := matching
    simp [Device.fresh, find?]
  · have skipped : ¬ (holder = none ∧ (Device.fresh (table.used + 1) added kind).name = name) :=
      matching
    simp [matching, skipped, find?]

theorem find?_add_of_ne {added : String} (different : added ≠ name) (kind : DeviceKind)
    (holder : Option Path) :
    (table.add added kind).find? holder name = table.find? holder name := by
  simp [find?_add, different]

theorem find?_add_self (missing : table.find? none name = none) (kind : DeviceKind) :
    (table.add name kind).find? none name = some (Device.fresh (table.used + 1) name kind) := by
  simp [find?_add, missing]

/-- A change that leaves the holder and the name of the device alone is seen in what is found. -/
theorem find?_adjust {index : Nat} {change : Device → Device}
    (placed : ∀ device, (change device).holder = device.holder)
    (named : ∀ device, (change device).name = device.name) :
    (table.adjust index change).find? holder name =
      (table.find? holder name).map fun device =>
        if device.index = index then change device else device := by
  have same : ∀ device : Device,
      (if device.index = index then change device else device).isHeldBy holder =
          device.isHeldBy holder ∧
        (if device.index = index then change device else device).name = device.name := by
    intro device
    split
    · exact ⟨Device.isHeldBy_congr (placed device) holder, named device⟩
    · exact ⟨rfl, rfl⟩
  rw [find?, adjust, List.find?_map]
  simp only [Function.comp_def, same, find?]

private theorem find?_map_of_unmatched {wanted : Device → Bool} {change : Device → Device}
    {devices : List Device}
    (unmatched : ∀ device ∈ devices,
      change device = device ∨ wanted device = false ∧ wanted (change device) = false) :
    (devices.map change).find? wanted = devices.find? wanted := by
  induction devices with
  | nil => rfl
  | cons first rest ih =>
      have restUnmatched := ih fun device member => unmatched device (List.mem_cons_of_mem _ member)
      rcases unmatched first List.mem_cons_self with same | ⟨before, after⟩
      · simp only [List.map_cons, same, List.find?_cons, restUnmatched]
      · simp only [List.map_cons, List.find?_cons, before, after, restUnmatched]

/-- A change of devices that are not looked for, before or after it, does not change what is
found. -/
theorem find?_adjust_of_unmatched {index : Nat} {change : Device → Device}
    (unmatched : ∀ device ∈ table.devices, device.index = index →
      ¬ (device.isHeldBy holder = true ∧ device.name = name) ∧
        ¬ ((change device).isHeldBy holder = true ∧ (change device).name = name)) :
    (table.adjust index change).find? holder name = table.find? holder name := by
  apply find?_map_of_unmatched
  intro device member
  by_cases meant : device.index = index
  · obtain ⟨before, after⟩ := unmatched device member meant
    right
    simpa [meant] using And.intro before after
  · left
    rw [if_neg meant]

theorem find?_drop (found : table.find? holder name = some device) {indices : List Nat}
    (kept : device.index ∉ indices) :
    (table.drop indices).find? holder name = some device := by
  obtain ⟨matching, before, after, split, unmatched⟩ := List.find?_eq_some_iff_append.mp found
  rw [find?, drop, List.find?_filter]
  apply List.find?_eq_some_iff_append.mpr
  refine ⟨?matching, before, after, split, ?unmatched⟩
  case matching => simpa [kept] using matching
  case unmatched =>
    intro earlier member
    have skipped := unmatched earlier member
    simp only [Bool.not_eq_true'] at skipped
    simp [skipped]

theorem find?_drop_of_none (missing : table.find? holder name = none) (indices : List Nat) :
    (table.drop indices).find? holder name = none := by
  rw [find?, List.find?_eq_none] at missing ⊢
  intro device member
  exact missing device (List.mem_of_mem_filter member)

theorem of_change_ok {later : DeviceTable} {index : Nat} {adjustment : Device → Device}
    (changed : table.change index adjustment = (.ok (), later)) :
    later = table.adjust index adjustment := by
  unfold change at changed
  cases found : table.device? index with
  | none => simp [found] at changed
  | some device => simpa [found, eq_comm] using changed

private theorem of_change_error {later : DeviceTable} {index : Nat} {adjustment : Device → Device}
    {fault : Fault} (refused : table.change index adjustment = (.error fault, later)) :
    later = table := by
  unfold change at refused
  cases found : table.device? index with
  | none => simp [found] at refused; exact refused.2.symm
  | some device => simp [found] at refused

/-- A request that the table refuses changes nothing. -/
theorem of_answer_error {request : LinkRequest} {later : DeviceTable} {fault : Fault}
    (refused : answer request table = (.error fault, later)) : later = table := by
  cases request with
  | indexOf name => cases refused
  | masterOf index =>
      cases found : table.device? index with
      | none => simp [answer, found] at refused; exact refused.2.symm
      | some device => simp [answer, found] at refused
  | createBridge name => cases refused
  | createVxlan vxlan uplink => cases refused
  | createPair name peer =>
      simp only [answer] at refused
      split at refused
      · cases refused
        rfl
      · cases refused
  | moveInto index target name => exact of_change_error refused
  | setUp index => exact of_change_error refused
  | setMaster index master => exact of_change_error refused
  | addAddress index cidr => exact of_change_error refused
  | configureIn target name cidr gateway =>
      simp only [answer] at refused
      split at refused
      · cases refused
        rfl
      · exact of_change_error refused
  | delete index =>
      cases found : table.device? index with
      | none => simp [answer, found] at refused; exact refused.2.symm
      | some device => simp [answer, found] at refused

end DeviceTable

end OverlayNet
