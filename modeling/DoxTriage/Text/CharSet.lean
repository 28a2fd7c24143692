import DoxTriage.Text.Basic

/-!
# Sets of characters by ranges

A property of characters that a standard lists is kept as the list of its ranges of code points,
both ends included. Membership is a search through the list, so that a closed membership can be
decided and a table can be read against the standard line by line.

## Main definitions

* `CharSet`: ranges of code points.
* `CharSet.has`: membership of a character.
-/

namespace DoxTriage

/-- A set of characters, as ranges of code points with both ends included. -/
abbrev CharSet := List (Nat × Nat)

/-- Membership of a character. -/
def CharSet.has (ranges : CharSet) (c : Char) : Bool :=
  ranges.any fun range => range.1 ≤ c.toNat && c.toNat ≤ range.2

end DoxTriage
