import Mathlib
import OverlayNet.Text.Cut
import OverlayNet.Text.Replace

set_option autoImplicit false

/-! # What replacement keeps

An occurrence of a pattern never reaches over a character that the pattern lacks. So replacement
can be done in the parts of a text one by one, and it commutes with an escape that leaves the
characters of the pattern alone. -/

namespace OverlayNet.Text

section Occurrences

variable {pattern : List Char}

theorem occursIn_eq_false_of_not_mem {character : Char} {text : List Char}
    (needed : character ∈ pattern) (missing : character ∉ text) :
    occursIn pattern text = false := by
  rw [← Bool.not_eq_true, occursIn_iff]
  rintro ⟨before, after, rfl⟩
  exact missing (by simp [needed])

/-- A prefix that lacks the separator ends before it. -/
theorem prefix_of_prefix_append_separator {front rest : List Char} {separator : Char}
    (lacks : separator ∉ pattern) (occurs : pattern <+: front ++ separator :: rest) :
    pattern <+: front := by
  rcases Nat.lt_or_ge front.length pattern.length with longer | short
  · have whole : front ++ [separator] <+: front ++ separator :: rest := ⟨rest, by simp⟩
    have reaches : front ++ [separator] <+: pattern :=
      List.prefix_of_prefix_length_le whole occurs (by simpa using longer)
    exact absurd (reaches.subset (by simp)) lacks
  · exact List.prefix_of_prefix_length_le occurs (List.prefix_append _ _) short

/-- To prove something about a text and its replacement, it suffices to consider an occurrence in
front of a text, and a character at which no occurrence starts. -/
theorem replacement_induction (nonempty : pattern ≠ []) {motive : List Char → Prop}
    (empty : motive [])
    (occurrence : ∀ rest, motive rest → motive (pattern ++ rest))
    (kept : ∀ character rest, ¬ pattern <+: character :: rest → motive rest →
      motive (character :: rest))
    (text : List Char) : motive text := by
  induction length : text.length using Nat.strong_induction_on generalizing text with
  | h size ih =>
    subst length
    cases text with
    | nil => exact empty
    | cons character rest =>
        by_cases occurs : pattern <+: character :: rest
        · obtain ⟨behind, split⟩ := occurs
          have shorter : behind.length < (character :: rest).length := by
            have positive := List.length_pos_of_ne_nil nonempty
            rw [← split, List.length_append]
            omega
          rw [← split]
          exact occurrence behind (ih _ shorter behind rfl)
        · exact kept character rest occurs (ih _ (Nat.lt_succ_self _) rest rfl)

end Occurrences

section Replacing

variable {pattern : List Char} (nonempty : pattern ≠ []) (replacement : List Char)

include nonempty

theorem replaceAll_append_separator {separator : Char} (lacks : separator ∉ pattern)
    (front rest : List Char) :
    replaceAll pattern replacement (front ++ separator :: rest) =
      replaceAll pattern replacement front ++
        separator :: replaceAll pattern replacement rest := by
  induction front using replacement_induction nonempty with
  | empty =>
      apply replaceAll_cons
      intro occurs
      have short : pattern <+: [] := prefix_of_prefix_append_separator lacks occurs
      exact nonempty (List.prefix_nil.mp short)
  | occurrence front ih =>
      rw [List.append_assoc, replaceAll_pattern_append nonempty, replaceAll_pattern_append nonempty,
        ih, List.append_assoc]
  | kept character front absent ih =>
      have absentBefore : ¬ pattern <+: character :: (front ++ separator :: rest) := by
        rw [← List.cons_append]
        exact fun occurs => absent (prefix_of_prefix_append_separator lacks occurs)
      rw [List.cons_append, replaceAll_cons absentBefore, ih, replaceAll_cons absent,
        List.cons_append]

omit nonempty in
theorem replaceAll_eq_self {text : List Char} (absent : occursIn pattern text = false) :
    replaceAll pattern replacement text = text := by
  induction text with
  | nil => rfl
  | cons character rest ih =>
      rw [occursIn, Bool.or_eq_false_iff] at absent
      obtain ⟨fails, behind⟩ := absent
      have notHere : ¬ pattern <+: character :: rest := by
        rw [← List.isPrefixOf_iff_prefix, fails]
        exact Bool.false_ne_true
      rw [replaceAll_cons notHere, ih behind]

omit nonempty in
/-- Characters with which the pattern does not start are kept. -/
theorem replaceAll_append_of_not_mem {first : Char} {others front : List Char}
    (missing : first ∉ front) (rest : List Char) :
    replaceAll (first :: others) replacement (front ++ rest) =
      front ++ replaceAll (first :: others) replacement rest := by
  induction front with
  | nil => rfl
  | cons character front ih =>
      rw [List.mem_cons, not_or] at missing
      have absent : ¬ (first :: others) <+: character :: (front ++ rest) := by
        intro occurs
        exact missing.1 (List.cons_prefix_cons.mp occurs).1
      rw [List.cons_append, replaceAll_cons absent, ih missing.2, List.cons_append]

end Replacing

section Escaping

variable {escape : Char → List Char} {pattern : List Char}

/-- Whether an escape leaves the characters of a pattern alone: it neither changes them nor uses
them for others. -/
structure Spared (escape : Char → List Char) (pattern : List Char) : Prop where
  nonempty : ∀ character, escape character ≠ []
  alone : ∀ kept ∈ pattern, ∀ character, kept ∈ escape character → escape character = [character]

private theorem Spared.prefix_of_prefix_flatMap (spared : Spared escape pattern) {text : List Char}
    (occurs : pattern <+: text.flatMap escape) : pattern <+: text := by
  induction text generalizing pattern with
  | nil => exact occurs
  | cons character rest ih =>
      cases pattern with
      | nil => exact List.nil_prefix
      | cons first others =>
          rw [List.flatMap_cons] at occurs
          obtain ⟨head, tail, written⟩ := List.exists_cons_of_ne_nil (spared.nonempty character)
          rw [written, List.cons_append] at occurs
          obtain ⟨rfl, behind⟩ := List.cons_prefix_cons.mp occurs
          have alone := spared.alone first List.mem_cons_self character (by simp [written])
          rw [alone] at written
          obtain ⟨rfl, rfl⟩ := List.cons.inj written
          have sparedOthers : Spared escape others :=
            ⟨spared.nonempty, fun kept member => spared.alone kept (List.mem_cons_of_mem _ member)⟩
          exact List.cons_prefix_cons.mpr ⟨rfl, ih sparedOthers behind⟩

theorem replaceAll_flatMap (spared : Spared escape pattern) (nonempty : pattern ≠ [])
    {replacement : List Char} (patternKept : pattern.flatMap escape = pattern)
    (replacementKept : replacement.flatMap escape = replacement) (text : List Char) :
    replaceAll pattern replacement (text.flatMap escape) =
      (replaceAll pattern replacement text).flatMap escape := by
  induction text using replacement_induction nonempty with
  | empty => rfl
  | occurrence rest ih =>
      rw [List.flatMap_append, patternKept, replaceAll_pattern_append nonempty,
        replaceAll_pattern_append nonempty, ih, List.flatMap_append, replacementKept]
  | kept character rest absent ih =>
      rw [replaceAll_cons absent, List.flatMap_cons, List.flatMap_cons, ← ih]
      by_cases alone : escape character = [character]
      · have absentEscaped : ¬ pattern <+: character :: rest.flatMap escape := by
          intro occurs
          apply absent
          apply spared.prefix_of_prefix_flatMap
          rwa [List.flatMap_cons, alone]
        rw [alone, List.singleton_append, replaceAll_cons absentEscaped, List.singleton_append]
      · obtain ⟨first, others, rfl⟩ := List.exists_cons_of_ne_nil nonempty
        apply replaceAll_append_of_not_mem
        intro member
        exact alone (spared.alone first List.mem_cons_self character member)

end Escaping

end OverlayNet.Text
