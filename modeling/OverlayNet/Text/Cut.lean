set_option autoImplicit false

/-! # Cutting a text at a separator

A text is cut at the first or the last occurrence of a separator, which belongs to neither part.
A text without the separator cannot be cut. -/

namespace OverlayNet.Text

/-- The parts before and after the first occurrence of the separator. -/
def cutFirst? (separator : Char) : List Char → Option (List Char × List Char)
  | [] => none
  | character :: rest =>
      if character = separator then some ([], rest)
      else (cutFirst? separator rest).map fun (before, after) => (character :: before, after)

/-- The parts before and after the last occurrence of the separator: the first cut, seen from the
other end. -/
def cutLast? (separator : Char) (text : List Char) : Option (List Char × List Char) :=
  (cutFirst? separator text.reverse).map fun (after, before) => (before.reverse, after.reverse)

/-- The cut at the first separator, exactly. -/
theorem cutFirst?_eq_some_iff {separator : Char} {text before after : List Char} :
    cutFirst? separator text = some (before, after) ↔
      text = before ++ separator :: after ∧ separator ∉ before := by
  induction text generalizing before with
  | nil => simp [cutFirst?]
  | cons character rest rest_ih =>
      by_cases same : character = separator
      · subst same
        cases before with
        | nil => simp [cutFirst?, eq_comm]
        | cons head tail =>
            simp only [cutFirst?, if_true, Option.some.injEq, Prod.mk.injEq, List.cons_append,
              List.cons.injEq, List.mem_cons]
            grind
      · cases before with
        | nil => simp [cutFirst?, same]
        | cons head tail =>
            simp only [cutFirst?, same, if_false, Option.map_eq_some_iff, Prod.exists,
              Prod.mk.injEq, List.cons_append, List.cons.injEq, List.mem_cons]
            grind

theorem cutFirst?_eq_none_iff {separator : Char} {text : List Char} :
    cutFirst? separator text = none ↔ separator ∉ text := by
  induction text with
  | nil => simp [cutFirst?]
  | cons character rest rest_ih =>
      by_cases same : character = separator
      · simp [cutFirst?, same]
      · simp [cutFirst?, same, rest_ih, Ne.symm same]

/-- The cut at the last separator, exactly. -/
theorem cutLast?_eq_some_iff {separator : Char} {text before after : List Char} :
    cutLast? separator text = some (before, after) ↔
      text = before ++ separator :: after ∧ separator ∉ after := by
  have mirrored : cutLast? separator text = some (before, after) ↔
      cutFirst? separator text.reverse = some (after.reverse, before.reverse) := by
    simp only [cutLast?, Option.map_eq_some_iff, Prod.exists, Prod.mk.injEq]
    constructor
    · rintro ⟨first, second, cut, rfl, rfl⟩
      simpa using cut
    · intro cut
      exact ⟨_, _, cut, by simp, by simp⟩
  rw [mirrored, cutFirst?_eq_some_iff, List.reverse_eq_iff]
  simp

theorem cutLast?_eq_none_iff {separator : Char} {text : List Char} :
    cutLast? separator text = none ↔ separator ∉ text := by
  simp [cutLast?, cutFirst?_eq_none_iff]

/-- Whether the pattern occurs in the text as a run of neighbouring characters. -/
def occursIn (pattern : List Char) : List Char → Bool
  | [] => pattern.isEmpty
  | character :: rest => pattern.isPrefixOf (character :: rest) || occursIn pattern rest

/-- The pattern occurs in a text exactly if the text can be split around it. -/
theorem occursIn_iff {pattern text : List Char} :
    occursIn pattern text = true ↔ ∃ before after, text = before ++ pattern ++ after := by
  induction text with
  | nil => cases pattern <;> simp [occursIn]
  | cons character rest rest_ih =>
      simp only [occursIn, Bool.or_eq_true, List.isPrefixOf_iff_prefix, rest_ih]
      constructor
      · rintro (⟨after, equal⟩ | ⟨before, after, equal⟩)
        · exact ⟨[], after, by simpa using equal.symm⟩
        · exact ⟨character :: before, after, by simp [equal]⟩
      · rintro ⟨before, after, equal⟩
        cases before with
        | nil => exact Or.inl ⟨after, by simpa using equal.symm⟩
        | cons head tail =>
            simp only [List.cons_append, List.cons.injEq] at equal
            exact Or.inr ⟨tail, after, equal.2⟩

end OverlayNet.Text
