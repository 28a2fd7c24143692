import DoxTriage.Xml.Entity
import DoxTriage.Xml.Event

/-!
# Documents as trees

What stands between two tags is a sequence of texts, verbatim texts, comments, instructions and
elements, and an element has such a content of its own. `Content` is this tree, read from the left:
each piece comes with the pieces after it. So one induction goes through a whole document, and its
hypotheses are about what is inside an element and about what follows it.

The parts of a tree carry what makes them writable. A name has no character that would end it, the
attributes of one element have different names, and a comment, an instruction or a verbatim text
does not contain its own end. A text needs nothing, because it is escaped when it is written.

## Main definitions

* `Xml.Name`, `Xml.Start`, `Xml.Verbatim`, `Xml.Comment`, `Xml.Instruction`: the parts of a tree.
* `Xml.Content`: a tree, and `Xml.Content.print`: the tree written out.
* `Xml.Content.elements`: all elements, in the order of their start tags.
* `Xml.Content.characters`: all that is written in a tree as text.
* `Xml.Content.Separate`: no element with some name is below another one.
-/

namespace DoxTriage

namespace Xml

/-! ### Parts -/

/-- Characters of names: no spaces, and none of the characters that tags are made of. -/
def isNamePart (c : Char) : Bool :=
  ! isSpace c && ! ['<', '>', '/', '=', '!', '?', '&', '"', '\''].contains c

/-- The name of an element or of an attribute. -/
structure Name where
  text : Text
  ne_nil : text ≠ []
  all_isNamePart : text.all isNamePart = true

theorem Name.isNamePart_of_mem (name : Name) : ∀ c ∈ name.text, isNamePart c = true :=
  List.all_eq_true.1 name.all_isNamePart

/-- What a start tag says: the name of the element, and its attributes with different names. -/
structure Start where
  name : Name
  attributes : List (Name × Text)
  nodup_keys : (attributes.map (·.1.text)).Nodup

/-- A text that is written without escaping. -/
structure Verbatim where
  text : Text
  not_infix : ¬ "]]>".toList <:+: text

/-- What stands in a comment. -/
structure Comment where
  text : Text
  not_infix : ¬ "-->".toList <:+: text

/-- What stands in an instruction. The question mark it begins with does not end it. -/
structure Instruction where
  text : Text
  not_infix : ¬ "?>".toList <:+: '?' :: text

/-- The value of an attribute among several. -/
def attribute? (items : List (Name × Text)) (key : Text) : Option Text :=
  (items.find? (·.1.text = key)).map (·.2)

/-- The value of an attribute of a start tag. -/
def Start.value? (start : Start) (key : Text) : Option Text :=
  attribute? start.attributes key

/-! ### Trees -/

/-- What stands between two tags, or in a whole document: nothing, or a piece and what follows it.
An element without content may be written as one tag. -/
inductive Content where
  | nil
  | text (s : Text) (later : Content)
  | verbatim (s : Verbatim) (later : Content)
  | comment (s : Comment) (later : Content)
  | instruction (s : Instruction) (later : Content)
  | empty (start : Start) (later : Content)
  | element (start : Start) (inner later : Content)

/-- An attribute as it is written. -/
def printAttribute (item : Name × Text) : Text :=
  ' ' :: item.1.text ++ '=' :: '"' :: escape item.2 ++ ['"']

/-- What is written between the angle brackets of a start tag. -/
def Start.print (start : Start) : Text :=
  start.name.text ++ start.attributes.flatMap printAttribute

/-- A piece of markup between angle brackets, and what follows it. -/
def markup (body rest : Text) : Text :=
  '<' :: body ++ '>' :: rest

namespace Content

/-- The tree written out. -/
def print : Content → Text
  | nil => []
  | text s later => escape s ++ later.print
  | verbatim s later => markup ("![CDATA[".toList ++ s.text ++ [']', ']']) later.print
  | comment s later => markup ("!--".toList ++ s.text ++ ['-', '-']) later.print
  | instruction s later => markup ('?' :: s.text ++ ['?']) later.print
  | empty start later => markup (start.print ++ ['/']) later.print
  | element start inner later =>
    markup start.print (inner.print ++ markup ('/' :: start.name.text) later.print)

/-- All elements with what is in them, in the order of their start tags. -/
def elements : Content → List (Start × Content)
  | nil => []
  | text _ later | verbatim _ later | comment _ later | instruction _ later => later.elements
  | empty start later => (start, nil) :: later.elements
  | element start inner later => (start, inner) :: (inner.elements ++ later.elements)

/-- All that is written as text, however deep, and in order. -/
def characters : Content → Text
  | nil => []
  | text s later => s ++ later.characters
  | verbatim s later => s.text ++ later.characters
  | comment _ later | instruction _ later | empty _ later => later.characters
  | element _ inner later => inner.characters ++ later.characters

/-- There is no element with this name. -/
def Lacks (name : Text) (content : Content) : Prop :=
  ∀ element ∈ content.elements, element.1.name.text ≠ name

/-- No element with this name is below another one. -/
def Separate (name : Text) (content : Content) : Prop :=
  ∀ element ∈ content.elements, element.1.name.text = name → element.2.Lacks name

instance (name : Text) (content : Content) : Decidable (content.Lacks name) :=
  inferInstanceAs (Decidable (∀ element ∈ content.elements, element.1.name.text ≠ name))

instance (name : Text) (content : Content) : Decidable (content.Separate name) :=
  inferInstanceAs (Decidable (∀ element ∈ content.elements,
    element.1.name.text = name → element.2.Lacks name))

theorem separate_element {name : Text} {start : Start} {inner later : Content} :
    (element start inner later).Separate name ↔
      (start.name.text = name → inner.Lacks name) ∧ inner.Separate name ∧
        later.Separate name := by
  simp only [Separate, elements, List.forall_mem_cons, List.forall_mem_append]

theorem lacks_element {name : Text} {start : Start} {inner later : Content} :
    (element start inner later).Lacks name ↔
      start.name.text ≠ name ∧ inner.Lacks name ∧ later.Lacks name := by
  simp only [Lacks, elements, List.forall_mem_cons, List.forall_mem_append]

theorem separate_empty {name : Text} {start : Start} {later : Content} :
    (empty start later).Separate name ↔ later.Separate name := by
  simp only [Separate, elements, List.forall_mem_cons]
  exact and_iff_right fun _ => fun _ h => absurd h List.not_mem_nil

theorem lacks_empty {name : Text} {start : Start} {later : Content} :
    (empty start later).Lacks name ↔ start.name.text ≠ name ∧ later.Lacks name := by
  simp only [Lacks, elements, List.forall_mem_cons]

end Content

end Xml

end DoxTriage
