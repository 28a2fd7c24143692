import DoxTriage.Xml.Fault

/-!
# Entities

In a text or an attribute value, five characters have names and every character has a number:
`&lt;` and `&#60;` and `&#x3C;` are all the same. An entity runs from an ampersand to the next
semicolon, with no other ampersand in between. A number is read from the left, so that the first
digit that does not fit decides whether the number is wrong or too large, and the character of
number zero does not exist in XML.

## Main definitions

* `Xml.entityCharacter`: the character that an entity stands for.
* `Xml.unescape`: a text with every entity replaced by its character.
* `Xml.escape`: a text written so that no character of it is markup.
-/

namespace DoxTriage

namespace Xml

/-- The number that digits write after `value` has been read, if it stays below 2³². -/
def entityNumberAfter (base value : Nat) : Text → Except EntityFault Nat
  | [] => .ok value
  | c :: digits =>
    match digitIn? base c with
    | none => .error .invalidDigit
    | some digit =>
      let next := value * base + digit
      if next < UInt32.size then entityNumberAfter base next digits else .error .numberTooLarge

/-- The number that digits write in a base. -/
def entityNumber (base : Nat) (digits : Text) : Except EntityFault Nat :=
  match digits with
  | [] => .error .emptyNumber
  | c :: _ =>
    if c = '+' ∨ c = '-' then .error .signedNumber else entityNumberAfter base 0 digits

/-- The character that has a number. -/
def characterOf (number : Nat) : Except EntityFault Char :=
  if number = 0 then .error .zero
  else if number.isValidChar then .ok (Char.ofNat number)
  else .error (.noCharacter number)

/-- The character that a numbered entity stands for, from what follows the number sign. -/
def numberedCharacter (digits : Text) : Except EntityFault Char :=
  if digits.head? = some 'x' then entityNumber 16 digits.tail >>= characterOf
  else entityNumber 10 digits >>= characterOf

/-- The characters that have names. -/
def namedCharacters : List (Text × Char) :=
  [("lt".toList, '<'), ("gt".toList, '>'), ("amp".toList, '&'), ("apos".toList, '\''),
   ("quot".toList, '"')]

/-- The character that an entity stands for, from what is between the ampersand, which is at
`start`, and the semicolon, which is at `stop`. -/
def entityCharacter (start stop : Nat) (name : Text) : Except EntityFault Char :=
  if name.head? = some '#' then numberedCharacter name.tail
  else
    match namedCharacters.lookup name with
    | some c => .ok c
    | none => .error (.unrecognized (start + 1) stop name)

/-- The rest of a text of `length` bytes with its entities replaced, from byte `place` on. An
entity that has been opened is given by the place of its ampersand and its name so far, reversed. -/
def unescapeFrom (length place : Nat) (opened : Option (Nat × Text)) :
    Text → Except EntityFault Text
  | [] =>
    match opened with
    | none => .ok []
    | some (start, _) => .error (.unterminated start length)
  | c :: s =>
    let next := place + c.utf8Size
    match opened with
    | none =>
      if c = '&' then unescapeFrom length next (some (place, [])) s
      else (unescapeFrom length next none s).map (c :: ·)
    | some (start, name) =>
      if c = '&' then .error (.unterminated start length)
      else if c = ';' then
        match entityCharacter start place name.reverse with
        | .error fault => .error fault
        | .ok character => (unescapeFrom length next none s).map (character :: ·)
      else unescapeFrom length next (some (start, c :: name)) s

/-- A text with every entity replaced by the character it stands for. -/
def unescape (raw : Text) : Except EntityFault Text :=
  unescapeFrom (Text.utf8Length raw) 0 none raw

/-- A character as it is written where markup would be recognised. -/
def escapeChar (c : Char) : Text :=
  match namedCharacters.find? (·.2 = c) with
  | some (name, _) => '&' :: name ++ [';']
  | none => [c]

/-- A text written so that no character of it is taken for markup. -/
def escape (s : Text) : Text :=
  s.flatMap escapeChar

end Xml

end DoxTriage
