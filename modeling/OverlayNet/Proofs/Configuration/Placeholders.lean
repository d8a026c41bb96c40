import Mathlib
import OverlayNet.Proofs.Configuration.Filling
import OverlayNet.Proofs.Configuration.Installing
import OverlayNet.Proofs.Text.Gaps

set_option autoImplicit false

/-! # Placeholders, filled in

A template is text around placeholders. Since a placeholder does not overlap itself, there is one
way only to tell the text from the placeholders, and filling in keeps the text and changes the
placeholders. The text of a subnet shares no character with a placeholder, so once it is filled in
no placeholder is left, wherever it was put. -/

namespace OverlayNet.Template

/-- Whether these texts, none of which holds a placeholder, are what stands around the placeholders
of a template. -/
structure Surrounds (gaps : List String) (template : String) : Prop where
  nonempty : gaps ≠ []
  spared : ∀ gap ∈ gaps, ¬ placeholder.toList <:+: gap.toList
  joined : placeholder.intercalate gaps = template

private theorem placeholder_ne_nil : placeholder.toList ≠ [] :=
  List.cons_ne_nil _ _

private theorem borderless_placeholder : Text.Borderless placeholder.toList := by
  have all : ∀ border ∈ placeholder.toList.inits, border ∈ placeholder.toList.tails →
      border = [] ∨ border = placeholder.toList := by
    decide
  intro border begins ends
  exact all border ((List.mem_inits _ _).mpr begins) ((List.mem_tails _ _).mpr ends)

section Rendering

variable {template subnet : String} {gaps : List String}

theorem surrounds_iff : Surrounds gaps template ↔
    Text.Gaps placeholder.toList (gaps.map String.toList) template.toList := by
  have joined_iff : placeholder.intercalate gaps = template ↔
      placeholder.toList.intercalate (gaps.map String.toList) = template.toList := by
    rw [← String.toList_intercalate, String.toList_inj]
  constructor
  · rintro ⟨nonempty, spared, joined⟩
    exact ⟨by simpa using nonempty, by simpa using spared, joined_iff.mp joined⟩
  · rintro ⟨nonempty, spared, joined⟩
    exact ⟨by simpa using nonempty, by simpa using spared, joined_iff.mpr joined⟩

theorem exists_surrounds (template : String) : ∃ gaps, Surrounds gaps template := by
  obtain ⟨gaps, around⟩ := Text.exists_gaps placeholder_ne_nil template.toList
  refine ⟨gaps.map String.ofList, surrounds_iff.mpr ?_⟩
  have same : (String.toList ∘ String.ofList) = id := funext fun _ => String.toList_ofList
  rwa [List.map_map, same, List.map_id]

theorem Surrounds.unique {others : List String} (first : Surrounds gaps template)
    (second : Surrounds others template) : gaps = others := by
  have same := (surrounds_iff.mp first).unique borderless_placeholder (surrounds_iff.mp second)
  exact List.map_injective_iff.mpr (fun _ _ => String.toList_inj.mp) same

theorem Surrounds.render_eq (around : Surrounds gaps template) (subnet : String) :
    render template subnet = subnet.intercalate gaps := by
  have replaced := (surrounds_iff.mp around).replaceAll_eq placeholder_ne_nil
    borderless_placeholder subnet.toList
  rw [render, replaced, ← String.toList_intercalate, String.ofList_toList]

private theorem not_infix_render {cidr : Cidr} (read : Cidr.parse subnet = .ok cidr)
    (template : String) : ¬ placeholder.toList <:+: (render template subnet).toList := by
  obtain ⟨gaps, around⟩ := exists_surrounds template
  obtain ⟨visible, lacks⟩ := lacks_of_parse read
  rw [around.render_eq, String.toList_intercalate]
  exact Text.not_infix_intercalate placeholder_ne_nil visible lacks (surrounds_iff.mp around).spared

end Rendering

variable {κ φ : Type}

/-- A template is written in one way only as texts around placeholders, and filled in it is these
texts around the subnet, whatever text that is. If the subnet is one that can be read, no
placeholder is left, and filling in once more changes nothing. Only such a subnet is ever filled in
where a configuration is installed, so no installed configuration holds a placeholder. -/
theorem placeholders_filled_exactly (template : String) :
    (∃! gaps, Surrounds gaps template) ∧
    (∀ gaps, Surrounds gaps template → ∀ subnet, render template subnet = subnet.intercalate gaps) ∧
    (∀ subnet cidr, Cidr.parse subnet = .ok cidr →
      ¬ placeholder.toList <:+: (render template subnet).toList ∧
      ∀ other, render (render template subnet) other = render template subnet) ∧
    ∀ (layout : Layout) (subnet : String) (host later : Host κ φ) (target : Path),
      (Installation.installConfiguration layout template subnet).outcome host =
        (.ok target, later) →
      (∃ cidr, Cidr.parse subnet = .ok cidr) ∧
      later.files.read target = .ok (Bytes.ofText (render template subnet)) := by
  refine ⟨?unique, fun gaps around subnet => around.render_eq subnet, ?filled, ?installed⟩
  case unique =>
    obtain ⟨gaps, around⟩ := exists_surrounds template
    exact ⟨gaps, around, fun others also => also.unique around⟩
  case filled =>
    intro subnet cidr read
    have absent := not_infix_render read template
    exact ⟨absent, fun other => render_eq_self (Text.occursIn_eq_false_iff.mpr absent)⟩
  case installed =>
    intro layout subnet host later target installed
    have written := (Procedure.ensures_of_ok installed).mp
      (Installation.installConfiguration_writes layout template subnet host)
    have completed := (Procedure.ensures_of_ok installed).mp
      (Installation.ensures_installConfiguration layout template subnet host)
    exact ⟨completed.1, written⟩

/-- A template in which a brace runs into a placeholder, and parts of one stand around another. -/
def crowdedTemplate : String :=
  "\x7b\x7b\x7bSUBNET\x7d\x7d\x7d\x7b\x7bSUB\x7b\x7bSUBNET\x7d\x7dNET\x7d\x7d"

theorem placeholders_filled_exactly_crowded :
    Surrounds ["\x7b", "\x7d\x7b\x7bSUB", "NET\x7d\x7d"] crowdedTemplate ∧
    render crowdedTemplate "10.1.0.0/+24" =
      "\x7b10.1.0.0/+24\x7d\x7b\x7bSUB10.1.0.0/+24NET\x7d\x7d" ∧
    Cidr.parse "10.1.0.0/+24" = .ok ⟨⟨0x0a010000⟩, 24, by decide⟩ ∧
    ¬ placeholder.toList <:+: (render crowdedTemplate "10.1.0.0/+24").toList ∧
    render (render crowdedTemplate "10.1.0.0/+24") placeholder =
      render crowdedTemplate "10.1.0.0/+24" ∧
    ∃ later, (Installation.installConfiguration nearbyLayout crowdedTemplate "10.1.0.0/+24").outcome
        Host.bare = (.ok nearbyLayout.configurationTarget, later) ∧
      later.files.read nearbyLayout.configurationTarget =
        .ok (Bytes.ofText (render crowdedTemplate "10.1.0.0/+24")) := by
  have around : Surrounds ["\x7b", "\x7d\x7b\x7bSUB", "NET\x7d\x7d"] crowdedTemplate := by
    refine ⟨List.cons_ne_nil _ _, ?_, by decide⟩
    decide +kernel
  have read : Cidr.parse "10.1.0.0/+24" = .ok ⟨⟨0x0a010000⟩, 24, by decide⟩ := by
    decide +kernel
  have succeeds : ((Installation.installConfiguration nearbyLayout crowdedTemplate
      "10.1.0.0/+24").outcome Host.bare).1 = .ok nearbyLayout.configurationTarget := by
    decide +kernel
  have installed := Prod.ext (y := (_, _)) succeeds rfl
  obtain ⟨-, exactly, filled, installs⟩ :=
    placeholders_filled_exactly (κ := Unit) (φ := Unit) crowdedTemplate
  have rendered := exactly _ around "10.1.0.0/+24"
  obtain ⟨absent, again⟩ := filled _ _ read
  exact ⟨around, rendered, read, absent, again placeholder, _, installed,
    (installs _ _ _ _ _ installed).2⟩

end OverlayNet.Template
