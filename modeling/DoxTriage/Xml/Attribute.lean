import DoxTriage.Xml.Event
import DoxTriage.Xml.Entity

/-!
# Attributes of a tag

The attributes stand after the name of a tag, each a key, an equals sign and a value between
quotes. They are read only for tags that somebody looks at, one after the other, and the first one
that is wrong ends the reading. No space is needed between two attributes, and a key is anything up
to an equals sign or a space; even its first character may be an equals sign.

## Main definitions

* `Xml.Attribute`: a key with its value as written.
* `Xml.Tag.attributes`: the attributes of a tag, and the fault that ended them.
-/

namespace DoxTriage

namespace Xml

/-- A key with its value as written between the quotes. -/
structure Attribute where
  key : Text
  raw : Text
  deriving DecidableEq, Repr

/-- One attribute of a tag, or why there is none. -/
inductive AttributeStep where
  | done
  | fault (fault : AttributeFault)
  | found (keyPlace : Nat) (item : Attribute) (place : Nat) (rest : Text)

/-- The place of the next character that is no space, and the text from there on. -/
def skipSpaces (place : Nat) (s : Text) : Nat × Text :=
  (place + (s.takeWhile isSpace).length, s.dropWhile isSpace)

/-- The value of an attribute, from what follows the equals sign. -/
def readValue (length keyPlace : Nat) (key : Text) (place : Nat) (s : Text) : AttributeStep :=
  match skipSpaces place s with
  | (_, []) => .fault (.valueExpected length)
  | (place, quote :: s) =>
    if quote = '"' ∨ quote = '\'' then
      let raw := s.takeWhile (· ≠ quote)
      match s.dropWhile (· ≠ quote) with
      | [] => .fault (.unclosedQuote length quote)
      | _ :: rest => .found keyPlace ⟨key, raw⟩ (place + Text.utf8Length raw + 2) rest
    else .fault (.unquotedValue place)

/-- The equals sign after a key, from what follows the key, and then the value. Keys that were read
before are given with their places. -/
def readAfterKey (length : Nat) (earlier : List (Text × Nat)) (keyPlace : Nat) (key : Text)
    (place : Nat) (s : Text) : AttributeStep :=
  match skipSpaces place s with
  | (_, []) => .fault (.equalsExpected length)
  | (place, c :: s) =>
    if c = '=' then
      match earlier.lookup key with
      | some previous => .fault (.duplicated keyPlace previous)
      | none => readValue length keyPlace key (place + 1) s
    else .fault (.equalsExpected place)

/-- Characters that go on with a key. -/
def isKeyPart (c : Char) : Bool :=
  c ≠ '=' && ! isSpace c

/-- The next attribute of a tag of `length` bytes, from byte `place` on. -/
def readAttribute (length : Nat) (earlier : List (Text × Nat)) (place : Nat) (s : Text) :
    AttributeStep :=
  match skipSpaces place s with
  | (_, []) => .done
  | (keyPlace, c :: s) =>
    let key := c :: s.takeWhile isKeyPart
    readAfterKey length earlier keyPlace key (keyPlace + Text.utf8Length key)
      (s.dropWhile isKeyPart)

theorem length_dropWhile_le (p : Char → Bool) (s : Text) : (s.dropWhile p).length ≤ s.length :=
  (List.dropWhile_suffix p).sublist.length_le

theorem length_of_skipSpaces {place after : Nat} {s rest : Text} {c : Char}
    (h : skipSpaces place s = (after, c :: rest)) : rest.length < s.length := by
  have hle := length_dropWhile_le isSpace s
  rw [(Prod.mk.inj h).2, List.length_cons] at hle
  omega

theorem length_of_readValue {length keyPlace place after found : Nat} {key s rest : Text}
    {item : Attribute} (h : readValue length keyPlace key place s = .found found item after rest) :
    rest.length < s.length := by
  rw [readValue] at h
  split at h
  · cases h
  · next quote tail hs =>
    have hs := length_of_skipSpaces hs
    split at h
    · dsimp only at h
      split at h
      · cases h
      · next hd =>
        cases h
        have hle := length_dropWhile_le (· ≠ quote) tail
        rw [hd, List.length_cons] at hle
        omega
    · cases h

theorem length_of_readAfterKey {length keyPlace place after found : Nat}
    {earlier : List (Text × Nat)} {key s rest : Text} {item : Attribute}
    (h : readAfterKey length earlier keyPlace key place s = .found found item after rest) :
    rest.length < s.length := by
  rw [readAfterKey] at h
  split at h
  · cases h
  · next hs =>
    have hs := length_of_skipSpaces hs
    split at h
    · split at h
      · cases h
      · have := length_of_readValue h
        omega
    · cases h

theorem length_of_readAttribute {length place after found : Nat} {earlier : List (Text × Nat)}
    {s rest : Text} {item : Attribute}
    (h : readAttribute length earlier place s = .found found item after rest) :
    rest.length < s.length := by
  rw [readAttribute] at h
  split at h
  · cases h
  · next tail hs =>
    have hs := length_of_skipSpaces hs
    have hrest := length_of_readAfterKey h
    have hle := length_dropWhile_le isKeyPart tail
    omega

/-- The attributes of a tag of `length` bytes from byte `place` on, and the fault that ended them.
Keys that were read before are given with their places. -/
def attributesFrom (length : Nat) (earlier : List (Text × Nat)) (place : Nat) (s : Text) :
    List Attribute × Option AttributeFault :=
  match h : readAttribute length earlier place s with
  | .done => ([], none)
  | .fault fault => ([], some fault)
  | .found keyPlace item after rest =>
    have := length_of_readAttribute h
    let later := attributesFrom length ((item.key, keyPlace) :: earlier) after rest
    (item :: later.1, later.2)
termination_by s.length

/-- The attributes of a tag, and the fault that ended them. -/
def Tag.attributes (tag : Tag) : List Attribute × Option AttributeFault :=
  attributesFrom (Text.utf8Length tag.content) [] (Text.utf8Length tag.name)
    (tag.content.dropWhile (! isSpace ·))

end Xml

end DoxTriage
