import DoxTriage.Text.Printable

/-!
# Quoted text

An error message that shows a line of a log has to show it on one line of the terminal, and so that
two different lines look different. The quoted form puts the text between double quotes and escapes
the quote, the backslash, the controls, whatever has no glyph of its own, and the marks that would
be drawn onto the character before them. An apostrophe stays as it is.

## Main definitions

* `Text.quoted`: the quoted form.
-/

namespace DoxTriage

namespace Text

/-- The hexadecimal digits of a number, in lower case. -/
def hexadecimal (n : Nat) : Text :=
  Nat.toDigits 16 n

/-- A character as it stands in a quoted text. -/
def quotedChar (c : Char) : Text :=
  if c = '\x00' then "\\0".toList
  else if c = '\t' then "\\t".toList
  else if c = '\r' then "\\r".toList
  else if c = '\n' then "\\n".toList
  else if c = '"' then "\\\"".toList
  else if c = '\\' then "\\\\".toList
  else if extendsGrapheme c || isInvisible c then
    "\\u\x7b".toList ++ hexadecimal c.toNat ++ "\x7d".toList
  else [c]

/-- The text between double quotes, on one line. -/
def quoted (s : Text) : Text :=
  '"' :: s.flatMap quotedChar ++ ['"']

end Text

end DoxTriage
