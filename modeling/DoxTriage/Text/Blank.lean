import DoxTriage.Text.CharSet

/-!
# Blank characters

A character is blank if it has the Unicode property White_Space: the ASCII ones with vertical tab
and form feed among them, the next-line control, the no-break spaces, the typographic spaces and
the two separators. The zero-width space and the byte order mark are *not* blank.

## Main definitions

* `isBlank`: the class.
* `Text.trim`, `Text.trimStart`, `Text.trimEnd`: drop blanks at the ends.
* `Text.isSolid`: a non-empty text without blanks, such as a parameter name.
* `Text.lastWord?`: the last word of a text, if a blank stands before it.
-/

namespace DoxTriage

/-- The ranges of the property White_Space. -/
def blanks : CharSet :=
  [(0x09, 0x0D), (0x20, 0x20), (0x85, 0x85), (0xA0, 0xA0), (0x1680, 0x1680), (0x2000, 0x200A),
   (0x2028, 0x2029), (0x202F, 0x202F), (0x205F, 0x205F), (0x3000, 0x3000)]

/-- Blank characters: Unicode White_Space. -/
def isBlank (c : Char) : Bool :=
  blanks.has c

namespace Text

/-- Drop the blanks in front. -/
def trimStart (s : Text) : Text :=
  s.dropWhile isBlank

/-- Drop the blanks at the end. -/
def trimEnd (s : Text) : Text :=
  (s.reverse.dropWhile isBlank).reverse

/-- Drop the blanks at both ends. -/
def trim (s : Text) : Text :=
  trimEnd (trimStart s)

/-- Nothing but blanks. -/
def isBlankLine (s : Text) : Bool :=
  s.all isBlank

/-- Something, and no blank in it. -/
def isSolid (s : Text) : Bool :=
  s ≠ [] && s.all (! isBlank ·)

/-- The last word of a text, blanks after it not counted, provided that a blank stands before it:
a word that begins where the text begins may be the tail of something longer. -/
def lastWord? (s : Text) : Option Text :=
  let back := s.reverse.dropWhile isBlank
  let word := back.takeWhile (! isBlank ·)
  if word ≠ [] ∧ back.dropWhile (! isBlank ·) ≠ [] then some word.reverse else none

end Text

end DoxTriage
