import DoxTriage.Text.Digit
import DoxTriage.Toml.Value

/-!
# Numbers in TOML

Numbers are written with underscores between digits, for the eye. An integer is decimal, with a sign
if one likes, or has its base in front and then no sign. A decimal number does not begin with
superfluous zeros. A real number has a fraction, an exponent or both, with digits on both sides of
the point.

Integers are judged twice. A document only looks at how a word begins and at the places around its
underscores; whether there is a number behind the look turns out when the number is asked for. So
`1_f` may stand where nobody reads it. An underscore right behind a sign is not looked at either,
and it hides the zeros behind it.

## Main definitions

* `Toml.digits?`: the value of digits with underscores between them.
* `Toml.integer?`, `Toml.real?`: the number that a word writes.
* `Toml.looksInteger`: a word that is taken for an integer, whether it is one or not.
-/

namespace DoxTriage

namespace Toml

/-- Digits of a base, with the underscores between them taken out. -/
def plainDigits? (base : Nat) (word : Text) : Option Text :=
  let groups := Text.split '_' word
  if groups.all fun group => group ≠ [] && group.all fun c => (digitIn? base c).isSome then
    some groups.flatten
  else none

/-- The number that digits write in a base. -/
def valueOf (base : Nat) (digits : Text) : Nat :=
  digits.foldl (fun value c => value * base + (hexDigit? c).getD 0) 0

/-- The number that digits of a base write, with underscores between them. -/
def digits? (base : Nat) (word : Text) : Option Nat :=
  (plainDigits? base word).map (valueOf base)

/-- A sign, if there is one, and what follows it; the sign is true if it is a minus. -/
def sign (word : Text) : Option Bool × Text :=
  match word with
  | '-' :: rest => (some true, rest)
  | '+' :: rest => (some false, rest)
  | _ => (none, word)

/-- Decimal digits, behind a sign or not, that do not begin with a superfluous zero. -/
def properDigits? (sign : Option Bool) (word : Text) : Option Text :=
  match sign, word with
  | some _, '_' :: digits => plainDigits? 10 digits
  | _, digits =>
    (plainDigits? 10 digits).filter fun digits => digits.head? ≠ some '0' || digits = ['0']

/-- The integer with a sign. -/
def signed (sign : Option Bool) (value : Nat) : Int :=
  if sign = some true then -(value : Int) else value

/-- The integer that a word writes. -/
def integer? (word : Text) : Option Int :=
  match word with
  | '0' :: 'x' :: digits => (digits? 16 digits).map Int.ofNat
  | '0' :: 'o' :: digits => (digits? 8 digits).map Int.ofNat
  | '0' :: 'b' :: digits => (digits? 2 digits).map Int.ofNat
  | _ =>
    let (sign, digits) := sign word
    (properDigits? sign digits).map fun digits => signed sign (valueOf 10 digits)

/-- The word has the look of an integer with underscores: it begins with decimal digits or a sign,
and next to the underscores stand digits of some base. -/
def looksGrouped (word : Text) : Bool :=
  let (sign, rest) := sign word
  let isEdge := fun (c : Option Char) => c.any fun c => (hexDigit? c).isSome
  match Text.split '_' rest with
  | [] | [_] => false
  | first :: groups =>
    first.all Char.isDigit && first.head? ≠ some '0' && (first ≠ [] || sign ≠ none) &&
      groups.all (isEdge ·.head?) && groups.dropLast.all (isEdge ·.getLast?)

/-- The word is taken for an integer: it has the look of one with underscores and no sign of a real
number in it, or it is a base without digits. -/
def looksInteger (word : Text) : Bool :=
  word = "0x".toList || word = "0o".toList || word = "0b".toList ||
    looksGrouped word && word.all fun c => c ≠ '.' && c ≠ 'e' && c ≠ 'E'

/-- A word cut at the first character of a kind, which is left out. -/
def cutAt (isMark : Char → Bool) (word : Text) : Text × Option Text :=
  (word.takeWhile (! isMark ·), (word.dropWhile (! isMark ·)).tail?)

/-- The exponent of a real number, which is zero if there is none. -/
def exponent? : Option Text → Option Int
  | none => some 0
  | some word =>
    let (sign, digits) := sign word
    (digits? 10 digits).map (signed sign)

/-- The digits of a fraction, of which there are none if there is no point. -/
def fraction? : Option Text → Option Text
  | none => some []
  | some digits => plainDigits? 10 digits

/-- The real number that a word writes. -/
def real? (word : Text) : Option Real := do
  let (sign, size) := sign word
  let negative := sign = some true
  if size = "inf".toList then return .infinite negative
  if size = "nan".toList then return .undefined
  let (mantissa, power) := cutAt (fun c => c = 'e' || c = 'E') size
  let (whole, part) := cutAt (· = '.') mantissa
  if part = none ∧ power = none then failure
  let whole ← properDigits? sign whole
  let part ← fraction? part
  let exponent ← exponent? power
  return .decimal negative (valueOf 10 (whole ++ part)) (exponent - part.length)

end Toml

end DoxTriage
