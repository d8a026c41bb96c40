import Mathlib
import OverlayNet.Proofs.Text.Replacement

set_option autoImplicit false

/-! # The gaps between the occurrences of a pattern

Any text can be written as gaps without the pattern, joined by the pattern. If the pattern does not
overlap itself, its occurrences do not overlap either, so there is one such list of gaps only, and
replacement joins the gaps by what is put in place of the pattern. -/

namespace OverlayNet.Text

/-- Whether no beginning of a pattern is also an end of it, but for nothing and for all of it. -/
def Borderless (pattern : List Char) : Prop :=
  ∀ border, border <+: pattern → border <:+ pattern → border = [] ∨ border = pattern

/-- Whether these are the gaps that a pattern leaves in a text. -/
structure Gaps (pattern : List Char) (gaps : List (List Char)) (text : List Char) : Prop where
  nonempty : gaps ≠ []
  spared : ∀ gap ∈ gaps, ¬ pattern <:+: gap
  joined : pattern.intercalate gaps = text

theorem occursIn_eq_false_iff {pattern text : List Char} :
    occursIn pattern text = false ↔ ¬ pattern <:+: text := by
  rw [← Bool.not_eq_true, occursIn_iff]
  simp only [List.IsInfix, eq_comm]

section Occurrences

variable {pattern : List Char}

/-- An occurrence lies on one side of a separator that the pattern lacks. -/
theorem infix_of_infix_append_separator {front rest : List Char} {separator : Char}
    (lacks : separator ∉ pattern) (occurs : pattern <:+: front ++ separator :: rest) :
    pattern <:+: front ∨ pattern <:+: rest := by
  induction front with
  | nil =>
      rcases List.infix_cons_iff.mp occurs with here | behind
      · have short : pattern <+: [] := prefix_of_prefix_append_separator lacks here
        exact .inl short.isInfix
      · exact .inr behind
  | cons character front ih =>
      rcases List.infix_cons_iff.mp occurs with here | behind
      · have starts : pattern <+: character :: front :=
          prefix_of_prefix_append_separator lacks here
        exact .inl starts.isInfix
      · rcases ih behind with before | behind
        · exact .inl (List.infix_cons before)
        · exact .inr behind

/-- No occurrence starts in characters that the pattern lacks. -/
theorem infix_of_infix_append_of_lacks (nonempty : pattern ≠ []) {front rest : List Char}
    (lacks : ∀ character ∈ front, character ∉ pattern) (occurs : pattern <:+: front ++ rest) :
    pattern <:+: rest := by
  induction front with
  | nil => exact occurs
  | cons character front ih =>
      have behind : pattern <:+: front ++ rest := by
        have apart : pattern <:+: [] ∨ pattern <:+: front ++ rest :=
          infix_of_infix_append_separator (lacks character List.mem_cons_self) occurs
        rcases apart with before | behind
        · exact absurd (List.infix_nil.mp before) nonempty
        · exact behind
      exact ih (fun other member => lacks other (List.mem_cons_of_mem character member)) behind

/-- Gaps that are joined by characters that the pattern lacks do not hold the pattern. -/
theorem not_infix_intercalate (nonempty : pattern ≠ []) {replacement : List Char}
    (visible : replacement ≠ []) (lacks : ∀ character ∈ replacement, character ∉ pattern)
    {gaps : List (List Char)} (spared : ∀ gap ∈ gaps, ¬ pattern <:+: gap) :
    ¬ pattern <:+: replacement.intercalate gaps := by
  obtain ⟨first, others, rfl⟩ := List.exists_cons_of_ne_nil visible
  induction gaps with
  | nil => exact fun occurs => nonempty (List.infix_nil.mp occurs)
  | cons gap rest ih =>
      cases rest with
      | nil => simpa using spared gap List.mem_cons_self
      | cons next rest =>
          intro occurs
          rw [List.intercalate_cons_cons, List.append_assoc, List.cons_append] at occurs
          have apart := infix_of_infix_append_separator (lacks first List.mem_cons_self) occurs
          rcases apart with before | behind
          · exact spared gap List.mem_cons_self before
          · have later : pattern <:+: (first :: others).intercalate (next :: rest) :=
              infix_of_infix_append_of_lacks nonempty
                (fun other member => lacks other (List.mem_cons_of_mem first member)) behind
            exact ih (fun other member => spared other (List.mem_cons_of_mem gap member)) later

/-- In front of an occurrence the pattern starts nowhere in a gap, for it would overlap itself. -/
theorem Borderless.not_prefix_gap (borderless : Borderless pattern) {gap rest : List Char}
    (inside : gap ≠ []) (spared : ¬ pattern <:+: gap) : ¬ pattern <+: gap ++ (pattern ++ rest) := by
  intro occurs
  rcases Nat.lt_or_ge gap.length pattern.length with longer | short
  · have whole : gap <+: pattern :=
      List.prefix_of_prefix_length_le (List.prefix_append _ _) occurs longer.le
    obtain ⟨border, split⟩ := whole
    -- What the pattern has behind the gap is where the next occurrence begins.
    have begins : border <+: pattern := by
      have behind : border <+: pattern ++ rest := by
        rwa [← List.prefix_append_right_inj gap, split]
      have shorter : border.length ≤ pattern.length := by
        rw [← split, List.length_append]
        exact Nat.le_add_left _ _
      exact List.prefix_of_prefix_length_le behind (List.prefix_append _ _) shorter
    have lengths := congrArg List.length split
    have positive := List.length_pos_of_ne_nil inside
    rw [List.length_append] at lengths
    rcases borderless border begins ⟨gap, split⟩ with rfl | rfl
    · rw [List.length_nil] at lengths
      omega
    · omega
  · exact spared (List.prefix_of_prefix_length_le occurs (List.prefix_append _ _) short).isInfix

/-- The pattern does not start in a gap, so the first occurrence is where the gap ends. -/
theorem Borderless.gap_length_le (borderless : Borderless pattern)
    {gap other rest behind : List Char} (spared : ¬ pattern <:+: gap)
    (same : gap ++ (pattern ++ rest) = other ++ (pattern ++ behind)) :
    gap.length ≤ other.length := by
  by_contra shorter
  rw [Nat.not_le] at shorter
  have whole : other <+: gap :=
    List.prefix_of_prefix_length_le ⟨_, same.symm⟩ (List.prefix_append _ _) shorter.le
  obtain ⟨inner, rfl⟩ := whole
  have inside : inner ≠ [] := by
    rintro rfl
    simp at shorter
  rw [List.append_assoc, List.append_cancel_left_eq] at same
  have innerSpared : ¬ pattern <:+: inner :=
    fun occurs => spared (occurs.trans (List.suffix_append _ _).isInfix)
  exact borderless.not_prefix_gap inside innerSpared ⟨behind, same.symm⟩

end Occurrences

section Splitting

variable {pattern : List Char} (nonempty : pattern ≠ [])

include nonempty

theorem exists_gaps (text : List Char) : ∃ gaps, Gaps pattern gaps text := by
  induction text using replacement_induction nonempty with
  | empty =>
      have absent : ¬ pattern <:+: [] := fun occurs => nonempty (List.infix_nil.mp occurs)
      exact ⟨[[]], List.cons_ne_nil _ _, by simpa using absent, rfl⟩
  | occurrence rest ih =>
      obtain ⟨gaps, some, spared, rfl⟩ := ih
      obtain ⟨gap, others, rfl⟩ := List.exists_cons_of_ne_nil some
      have absent : ¬ pattern <:+: [] := fun occurs => nonempty (List.infix_nil.mp occurs)
      refine ⟨[] :: gap :: others, List.cons_ne_nil _ _, ?_, ?_⟩
      · exact List.forall_mem_cons.mpr ⟨absent, spared⟩
      · rw [List.intercalate_cons_cons, List.nil_append]
  | kept character rest absent ih =>
      obtain ⟨gaps, some, spared, rfl⟩ := ih
      obtain ⟨gap, others, rfl⟩ := List.exists_cons_of_ne_nil some
      have starts : gap <+: pattern.intercalate (gap :: others) := by
        cases others with
        | nil => simp
        | cons next others =>
            rw [List.intercalate_cons_cons, List.append_assoc]
            exact List.prefix_append _ _
      have sparedHere : ¬ pattern <:+: character :: gap := by
        intro occurs
        rcases List.infix_cons_iff.mp occurs with here | behind
        · exact absent (here.trans (List.cons_prefix_cons.mpr ⟨rfl, starts⟩))
        · exact spared gap List.mem_cons_self behind
      refine ⟨(character :: gap) :: others, List.cons_ne_nil _ _, ?_, ?_⟩
      · exact List.forall_mem_cons.mpr
          ⟨sparedHere, fun other member => spared other (List.mem_cons_of_mem gap member)⟩
      · cases others with
        | nil => simp
        | cons next others =>
            rw [List.intercalate_cons_cons, List.intercalate_cons_cons, List.cons_append,
              List.cons_append]

variable (borderless : Borderless pattern)

include borderless

omit nonempty in
theorem Gaps.unique {gaps others : List (List Char)} {text : List Char}
    (first : Gaps pattern gaps text) (second : Gaps pattern others text) : gaps = others := by
  obtain ⟨someGaps, gapsSpared, rfl⟩ := first
  obtain ⟨someOthers, othersSpared, joined⟩ := second
  have inside : ∀ front rest : List Char, pattern <:+: front ++ (pattern ++ rest) :=
    fun front rest => ⟨front, rest, List.append_assoc _ _ _⟩
  -- Either both lists end here, or both have their first occurrence at the same place.
  induction gaps generalizing others with
  | nil => exact absurd rfl someGaps
  | cons gap rest ih =>
      obtain ⟨other, behind, rfl⟩ := List.exists_cons_of_ne_nil someOthers
      have gapSpared := gapsSpared gap List.mem_cons_self
      have otherSpared := othersSpared other List.mem_cons_self
      cases rest with
      | nil =>
          cases behind with
          | nil => simpa using joined.symm
          | cons following behind =>
              rw [List.intercalate_cons_cons, List.append_assoc, List.intercalate_singleton]
                at joined
              exact absurd (joined ▸ inside _ _) gapSpared
      | cons next rest =>
          cases behind with
          | nil =>
              rw [List.intercalate_cons_cons, List.append_assoc, List.intercalate_singleton]
                at joined
              exact absurd (joined ▸ inside _ _) otherSpared
          | cons following behind =>
              rw [List.intercalate_cons_cons, List.append_assoc, List.intercalate_cons_cons,
                List.append_assoc] at joined
              have lengths : other.length = gap.length :=
                Nat.le_antisymm (borderless.gap_length_le otherSpared joined)
                  (borderless.gap_length_le gapSpared joined.symm)
              obtain ⟨rfl, remaining⟩ := List.append_inj joined lengths
              rw [List.append_cancel_left_eq] at remaining
              have tails := ih (List.cons_ne_nil _ _)
                (fun gap member => gapsSpared gap (List.mem_cons_of_mem _ member))
                (List.cons_ne_nil _ _)
                (fun gap member => othersSpared gap (List.mem_cons_of_mem _ member)) remaining
              rw [tails]

private theorem replaceAll_gap_append {gap : List Char} (spared : ¬ pattern <:+: gap)
    (replacement rest : List Char) :
    replaceAll pattern replacement (gap ++ (pattern ++ rest)) =
      gap ++ (replacement ++ replaceAll pattern replacement rest) := by
  induction gap with
  | nil => exact replaceAll_pattern_append nonempty replacement rest
  | cons character gap ih =>
      have absent : ¬ pattern <+: character :: (gap ++ (pattern ++ rest)) :=
        borderless.not_prefix_gap (List.cons_ne_nil character gap) spared
      rw [List.cons_append, replaceAll_cons absent,
        ih fun occurs => spared (List.infix_cons occurs), List.cons_append]

/-- Replacement joins the gaps by what stands in place of the pattern. -/
theorem Gaps.replaceAll_eq {gaps : List (List Char)} {text : List Char}
    (around : Gaps pattern gaps text) (replacement : List Char) :
    replaceAll pattern replacement text = replacement.intercalate gaps := by
  obtain ⟨-, spared, rfl⟩ := around
  induction gaps with
  | nil => rfl
  | cons gap rest ih =>
      have gapSpared := spared gap List.mem_cons_self
      cases rest with
      | nil =>
          rw [List.intercalate_singleton, List.intercalate_singleton,
            replaceAll_eq_self replacement (occursIn_eq_false_iff.mpr gapSpared)]
      | cons next rest =>
          rw [List.intercalate_cons_cons, List.append_assoc,
            replaceAll_gap_append nonempty borderless gapSpared,
            ih fun other member => spared other (List.mem_cons_of_mem gap member),
            List.intercalate_cons_cons, List.append_assoc]

end Splitting

end OverlayNet.Text
