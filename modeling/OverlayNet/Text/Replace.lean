set_option autoImplicit false

/-! # Replacing every occurrence of a pattern

Occurrences are taken from left to right and do not overlap: after an occurrence the search goes on
behind it. -/

namespace OverlayNet.Text

/-- Replacement in the text after its first `pending` characters, which belong to an occurrence that
has been replaced already. -/
def replaceFrom (pattern replacement : List Char) : (pending : Nat) → List Char → List Char
  | _, [] => []
  | pending + 1, _ :: rest => replaceFrom pattern replacement pending rest
  | 0, character :: rest =>
      if pattern.isPrefixOf (character :: rest) then
        replacement ++ replaceFrom pattern replacement (pattern.length - 1) rest
      else
        character :: replaceFrom pattern replacement 0 rest

/-- The text with every occurrence of a nonempty pattern replaced. -/
def replaceAll (pattern replacement text : List Char) : List Char :=
  replaceFrom pattern replacement 0 text

/-- Characters that are pending are dropped. -/
theorem replaceFrom_eq_drop (pattern replacement : List Char) (pending : Nat) (text : List Char) :
    replaceFrom pattern replacement pending text =
      replaceAll pattern replacement (text.drop pending) := by
  induction text generalizing pending with
  | nil => cases pending <;> simp [replaceAll, replaceFrom]
  | cons character rest rest_ih =>
      cases pending with
      | zero => rfl
      | succ pending => simpa [replaceFrom] using rest_ih pending

/-- At an occurrence the replacement is written and the search goes on behind the occurrence. -/
theorem replaceAll_pattern_append {pattern : List Char} (nonempty : pattern ≠ [])
    (replacement rest : List Char) :
    replaceAll pattern replacement (pattern ++ rest) =
      replacement ++ replaceAll pattern replacement rest := by
  cases pattern with
  | nil => exact absurd rfl nonempty
  | cons first others =>
      have occurs : (first :: others).isPrefixOf (first :: (others ++ rest)) = true := by
        rw [List.isPrefixOf_iff_prefix]
        exact ⟨rest, by simp⟩
      rw [List.cons_append, replaceAll, replaceFrom, if_pos occurs, replaceFrom_eq_drop]
      simp

/-- A character at which no occurrence starts is kept. -/
theorem replaceAll_cons {pattern : List Char} {character : Char} {rest : List Char}
    (absent : ¬ pattern <+: character :: rest) (replacement : List Char) :
    replaceAll pattern replacement (character :: rest) =
      character :: replaceAll pattern replacement rest := by
  have fails : pattern.isPrefixOf (character :: rest) = false := by
    rw [← Bool.not_eq_true, List.isPrefixOf_iff_prefix]
    exact absent
  rw [replaceAll, replaceFrom, fails]
  rfl

end OverlayNet.Text
