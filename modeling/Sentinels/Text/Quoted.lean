import Sentinels.Text
import Sentinels.Unicode.Concealed

/-!
# Quoted text

A text that appears inside a message stands between quotation marks. Characters without a form of
their own are written as hexadecimal escapes, the usual control characters as a backslash and a
letter.
-/

set_option autoImplicit false

namespace Sentinels.Text

/-- The lower-case hexadecimal digits of a number. -/
def hexDigits (n : Nat) : Text := Nat.toDigits 16 n

/-- A character of a quoted text; the characters of `hidden` are written in hexadecimal. -/
def quotedChar (hidden : CharSet) (c : Char) : Text :=
  if c = Char.ofNat 0 then ['\\', '0']
  else if c = '\t' then ['\\', 't']
  else if c = '\r' then ['\\', 'r']
  else if c = '\n' then ['\\', 'n']
  else if c = '\\' then ['\\', '\\']
  else if c = '"' then ['\\', '"']
  else if hidden.contains c then ['\\', 'u', '{'] ++ hexDigits c.toNat ++ ['}']
  else [c]

/-- The text between quotation marks, with escapes. -/
def quoted (text : Text) : Text :=
  let hidden := Unicode.concealed
  ['"'] ++ text.flatMap (quotedChar hidden) ++ ['"']

end Sentinels.Text
