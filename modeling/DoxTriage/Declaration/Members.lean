import DoxTriage.Declaration
import DoxTriage.SourceName
import DoxTriage.Text.Blank
import DoxTriage.Xml.Attribute

/-!
# Declarations in a document

A document of the documentation describes members, each an element `memberdef`. Somewhere in it
stand the places where the member is declared or defined, elements `location`, and its parameter
list as written, an element `argsstring`. A member is a declaration *of a source file* if one of
its places names that file; the first such place in the document gives the line, and later places
are not looked at any more, so what is wrong with them is not noticed.

The document is read event by event with one member in hand. Members do not contain members: a
`memberdef` that begins inside another one replaces it.

## Main definitions

* `Place`: what a `location` names.
* `Member`: what is known of the member in hand.
* `Declaration.ofDocument`: the declarations of a source file in a document, in ascending order.
-/

namespace DoxTriage

/-- What a `location` names: a file, and a line if there is one that can be read. -/
structure Place where
  file : Option Text := none
  line : Option Nat := none
  deriving DecidableEq, Repr

namespace Place

/-- The element that names a place. -/
def element : Text := "location".toList

/-- Take in one attribute of a `location`. -/
def takeIn (place : Place) (item : Xml.Attribute) : Except Xml.Fault Place :=
  if item.key = "file".toList then
    (Xml.unescape item.raw).mapError .inEntity |>.map fun value => { place with file := some value }
  else if item.key = "line".toList then
    (Xml.unescape item.raw).mapError .inEntity |>.map fun value =>
      { place with line := Text.lineNumber? (Text.trim value) }
  else .ok place

/-- What a `location` names. Attributes are taken in order, and the first thing that is wrong with
one of them is the fault. -/
def ofTag (tag : Xml.Tag) : Except Xml.Fault Place :=
  match tag.attributes.1.foldlM takeIn {}, tag.attributes.2 with
  | .error fault, _ => .error fault
  | .ok _, some fault => .error (.inTag fault)
  | .ok place, none => .ok place

/-- The line of a place in the source file that is asked for. -/
def lineIn? (marker file : Text) (place : Place) : Option Nat :=
  match place.file with
  | some named => if sourceName marker named = file then place.line else none
  | none => none

end Place

/-- What is known of the member in hand. -/
structure Member where
  line : Option Nat := none
  parameters : Text := []
  inParameters : Bool := false
  deriving DecidableEq, Repr

namespace Member

/-- The element that is a member. -/
def element : Text := "memberdef".toList

/-- The element that holds a parameter list. -/
def parametersElement : Text := "argsstring".toList

/-- The member after one of its places. It is looked at only while the member has no line. -/
def atPlace (marker file : Text) (tag : Xml.Tag) (member : Member) : Except Xml.Fault Member :=
  if member.line.isSome then .ok member
  else (Place.ofTag tag).map fun place => { member with line := place.lineIn? marker file }

/-- The member with more of its parameter list. -/
def append (text : Text) (member : Member) : Member :=
  { member with parameters := member.parameters ++ text }

/-- The member after an event inside it. -/
def after (marker file : Text) (event : Xml.Event) (member : Member) : Except Xml.Fault Member :=
  match event with
  | .opening tag =>
    if tag.name = Place.element then member.atPlace marker file tag
    else if tag.name = parametersElement then .ok { member with inParameters := true }
    else .ok member
  | .empty tag => if tag.name = Place.element then member.atPlace marker file tag else .ok member
  | .closing name =>
    if name = parametersElement then .ok { member with inParameters := false } else .ok member
  | .text raw =>
    if member.inParameters then
      (Xml.unescape raw).mapError .inEntity |>.map fun text => member.append text
    else .ok member
  | .verbatim raw => .ok (if member.inParameters then member.append raw else member)
  | .aside => .ok member

/-- The declaration that a member is, if it has a line. -/
def declaration? (member : Member) : Option Declaration :=
  member.line.map fun line => ⟨line, member.parameters⟩

end Member

/-- A document as far as it has been read: the member in hand, and the declarations of the members
before it, the last one first. -/
structure Progress where
  member : Option Member := none
  found : List Declaration := []
  deriving DecidableEq, Repr

namespace Progress

/-- A tag begins a member. -/
def beginsMember : Xml.Event → Bool
  | .opening tag => tag.name = Member.element
  | _ => false

/-- A member ends. -/
def endMember (progress : Progress) : Progress :=
  { member := none
    found := (progress.member.bind Member.declaration?).toList ++ progress.found }

/-- One event further. -/
def after (marker file : Text) (progress : Progress) (event : Xml.Event) :
    Except Xml.Fault Progress :=
  if beginsMember event then
    .ok { progress with member := some {} }
  else if event = .closing Member.element then .ok progress.endMember
  else
    match progress.member with
    | none => .ok progress
    | some member =>
      (member.after marker file event).map fun member => { progress with member := some member }

end Progress

namespace Declaration

/-- The declarations of a source file among the members of a document, in ascending order. What
is wrong with an event that was read counts before the fault that ended the reading. -/
def ofReading (marker file : Text) (reading : Xml.Reading) : Except Xml.Fault (List Declaration) :=
  match reading.events.foldlM (Progress.after marker file) {}, reading.fault with
  | .error fault, _ => .error fault
  | .ok _, some fault => .error fault
  | .ok progress, none => .ok (sort progress.found)

/-- The declarations of a source file in the text of a document, in ascending order. -/
def ofDocument (marker file document : Text) : Except Xml.Fault (List Declaration) :=
  ofReading marker file (Xml.read document)

end Declaration

end DoxTriage
