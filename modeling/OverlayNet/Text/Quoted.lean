import OverlayNet.Text.Visible

set_option autoImplicit false

/-! # Quoted text in messages

A message shows a text between double quotes. Quotes, backslashes and characters without a visible
form are escaped, so that the message shows exactly which text it speaks of. -/

namespace OverlayNet.Text

/-- How one character is shown between double quotes. -/
def quotedCharacter (character : Char) : List Char :=
  match character with
  | '"' => ['\\', '"']
  | '\\' => ['\\', '\\']
  | '\n' => ['\\', 'n']
  | '\r' => ['\\', 'r']
  | '\t' => ['\\', 't']
  | '\x00' => ['\\', '0']
  | _ =>
      if isVisible character then [character]
      else ['\\', 'u', '\x7b'] ++ Nat.toDigits 16 character.toNat ++ ['\x7d']

def quoted (text : String) : String :=
  String.ofList ('"' :: text.toList.flatMap quotedCharacter ++ ['"'])

end OverlayNet.Text
