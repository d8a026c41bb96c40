set_option autoImplicit false

/-! # Blank characters

The characters with the Unicode property White_Space, and the removal of such characters from the
end of a text. Zero-width characters and the byte order mark do not have the property. -/

namespace OverlayNet.Text

/-- The closed ranges of code points with the property White_Space. -/
def blankRanges : List (Nat × Nat) :=
  [(0x9, 0xD), (0x20, 0x20), (0x85, 0x85), (0xA0, 0xA0), (0x1680, 0x1680), (0x2000, 0x200A),
    (0x2028, 0x2029), (0x202F, 0x202F), (0x205F, 0x205F), (0x3000, 0x3000)]

/-- Whether a character has the property White_Space. -/
def isBlank (character : Char) : Bool :=
  blankRanges.any fun range => range.1 ≤ character.toNat && character.toNat ≤ range.2

def trimEnd (characters : List Char) : List Char :=
  (characters.reverse.dropWhile isBlank).reverse

/-- A text that does not end in a blank character is left as it is. -/
theorem trimEnd_eq_self {characters : List Char}
    (solid : ∀ last, characters.getLast? = some last → isBlank last = false) :
    trimEnd characters = characters := by
  rw [trimEnd]
  cases reversed : characters.reverse with
  | nil => simpa using reversed.symm
  | cons last before =>
      have ends : characters.getLast? = some last := by
        rw [← List.head?_reverse, reversed, List.head?_cons]
      rw [List.dropWhile_cons_of_neg (by simp [solid last ends]), ← reversed, List.reverse_reverse]

end OverlayNet.Text
