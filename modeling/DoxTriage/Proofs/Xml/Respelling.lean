import DoxTriage.Declaration.Members
import DoxTriage.Proofs.Agreement
import DoxTriage.Proofs.Xml.Reading

/-!
# Documents with other paths to the same files

A source file may be named by any path to it. Here the paths in the attributes `file` of the
elements `location` of a document are replaced by other ones with the same names, and everything
else is left as it is. The other document is read as the same events but for these attributes, and
if reading ends with a fault, then both documents have this fault.

Faults tell their place in bytes, and a longer path moves everything behind it. So faults are
compared without their places, and all laws about scanning let the two texts begin at different
places.

## Main definitions

* `Xml.Fault.Alike`: faults that differ in nothing but places.
* `Xml.Tag.Respelled`, `Xml.Event.Respelled`: the path of a `location` is another one.
* `Xml.Respelled`: a document with other paths.

## Main results

* `Xml.read_respelled`: documents with other paths are read alike.
-/

namespace DoxTriage

namespace Xml

/-! ### Faults without places -/

/-- A fault in the attributes, with all places replaced by zero. -/
def AttributeFault.withoutPlaces : AttributeFault → AttributeFault
  | .equalsExpected _ => .equalsExpected 0
  | .valueExpected _ => .valueExpected 0
  | .unquotedValue _ => .unquotedValue 0
  | .unclosedQuote _ quote => .unclosedQuote 0 quote
  | .duplicated _ _ => .duplicated 0 0

/-- A fault in a document, with the places that depend on the text before it replaced by zero. The
places of an entity are counted from where its text begins. -/
def Fault.withoutPlaces : Fault → Fault
  | .inMarkup _ fault => .inMarkup 0 fault
  | .inTag fault => .inTag fault.withoutPlaces
  | .inEntity fault => .inEntity fault

/-- Two faults that differ in nothing but places. -/
def Fault.Alike (fault other : Fault) : Prop :=
  fault.withoutPlaces = other.withoutPlaces

theorem Fault.Alike.refl (fault : Fault) : fault.Alike fault := rfl

/-! ### Other paths -/

section Respelled

variable (marker : Text)

/-- An attribute is the same, or both are a `file` and name the same source file. -/
inductive Attribute.Respelled : Attribute → Attribute → Prop
  | same (item : Attribute) : Respelled item item
  | file {raw other path named : Text} (hraw : unescape raw = .ok path)
    (hother : unescape other = .ok named) (h : sourceName marker path = sourceName marker named) :
    Respelled ⟨"file".toList, raw⟩ ⟨"file".toList, other⟩

/-- Two tags of elements `location` with the same attributes, but for the path of the file. -/
structure Tag.Respelled (tag other : Tag) : Prop where
  name_eq : tag.name = Place.element
  other_name_eq : other.name = Place.element
  attributes : List.Forall₂ (Attribute.Respelled marker) tag.attributes.1 other.attributes.1
  fault_eq : tag.attributes.2.map AttributeFault.withoutPlaces =
    other.attributes.2.map AttributeFault.withoutPlaces

/-- An event is the same, or both are tags with another path to the same file. -/
inductive Event.Respelled : Event → Event → Prop
  | same (event : Event) : Respelled event event
  | opening {tag other : Tag} (h : tag.Respelled marker other) :
    Respelled (.opening tag) (.opening other)
  | empty {tag other : Tag} (h : tag.Respelled marker other) : Respelled (.empty tag) (.empty other)

/-- A document with other paths, read from the left. Each piece of markup is the same or a
`location` with another path. From some place on both documents are the same, or there is markup
that cannot be read in either of them, and then nothing after it is. -/
inductive Respelled : Text → Text → Prop
  | same (s : Text) : Respelled s s
  | unread {text body other : Text} {offset offset' : Nat} {fault : MarkupFault}
    (htext : '<' ∉ text) (hbody : readMarkup body = .error (offset, fault))
    (hother : readMarkup other = .error (offset', fault)) :
    Respelled (text ++ '<' :: body) (text ++ '<' :: other)
  | markup {text body other rest later : Text} {event read : Event} (htext : '<' ∉ text)
    (hbody : Reads body event) (hother : Reads other read) (hevent : event.Respelled marker read)
    (h : Respelled rest later) :
    Respelled (text ++ '<' :: (body ++ '>' :: rest)) (text ++ '<' :: (other ++ '>' :: later))

/-- Two documents are read alike: as events that are the same but for other paths, and with the same
fault after them, if with any. -/
structure Reading.Respelled (reading other : Reading) : Prop where
  events : List.Forall₂ (Event.Respelled marker) reading.events other.events
  fault_eq : reading.fault.map Fault.withoutPlaces = other.fault.map Fault.withoutPlaces

end Respelled

variable {marker : Text}

theorem forall₂_same (events : List Event) :
    List.Forall₂ (Event.Respelled marker) events events :=
  List.forall₂_same.2 fun event _ => .same event

/-! ### Scanning -/

/-- Wherever the two texts begin, they are cut into the same events but for other paths, and with
the same fault after them. -/
def ScansAlike (marker s t : Text) : Prop :=
  ∀ place other,
    List.Forall₂ (Event.Respelled marker) ((scan place s).1.map Prod.snd)
        ((scan other t).1.map Prod.snd) ∧
      (scan place s).2.map Prod.snd = (scan other t).2.map Prod.snd

/-- A piece of markup with the same text in front of it. -/
theorem ScansAlike.markup {raw body other rest later : Text} {event read : Event}
    {size length : Nat} (hraw : '<' ∉ raw) (hbody : readMarkup body = .ok (event, size, rest))
    (hother : readMarkup other = .ok (read, length, later)) (hevent : event.Respelled marker read)
    (h : ScansAlike marker rest later) :
    ScansAlike marker (raw ++ '<' :: body) (raw ++ '<' :: other) := by
  intro place place'
  obtain ⟨start, next, hscan⟩ := scan_markup hraw hbody place
  obtain ⟨start', next', hscan'⟩ := scan_markup hraw hother place'
  obtain ⟨hevents, hfault⟩ := h next next'
  rw [hscan, hscan', List.map_append, List.map_append, snd_textEvents, snd_textEvents]
  exact ⟨List.rel_append (forall₂_same _) (.cons hevent hevents), hfault⟩

/-- Markup with the same fault, with the same text in front of it. -/
theorem ScansAlike.unread {raw body other : Text} {offset offset' : Nat} {fault : MarkupFault}
    (hraw : '<' ∉ raw) (hbody : readMarkup body = .error (offset, fault))
    (hother : readMarkup other = .error (offset', fault)) :
    ScansAlike marker (raw ++ '<' :: body) (raw ++ '<' :: other) := by
  intro place place'
  obtain ⟨start, hscan⟩ := scan_fault hraw hbody place
  obtain ⟨start', hscan'⟩ := scan_fault hraw hother place'
  rw [hscan, hscan', snd_textEvents, snd_textEvents]
  exact ⟨forall₂_same _, rfl⟩

/-- Where a text begins does not matter. The induction is on its length. -/
theorem scansAlike_same (s : Text) : ScansAlike marker s s := by
  by_cases hmem : '<' ∈ s
  · obtain ⟨raw, body, rfl, hraw⟩ := List.eq_append_cons_of_mem hmem
    cases hread : readMarkup body with
    | error fault => exact .unread hraw hread hread
    | ok found =>
      obtain ⟨event, size, rest⟩ := found
      have hlength := length_of_readMarkup hread
      have hlt : rest.length < (raw ++ '<' :: body).length := by
        rw [List.length_append, List.length_cons]
        omega
      exact .markup hraw hread hread (.same event) (scansAlike_same rest)
  · intro place other
    rw [scan_text hmem, scan_text hmem, snd_textEvents, snd_textEvents]
    exact ⟨forall₂_same _, rfl⟩
termination_by s.length

theorem scansAlike_of_respelled {s t : Text} (h : Respelled marker s t) :
    ScansAlike marker s t := by
  induction h with
  | same s => exact scansAlike_same s
  | unread htext hbody hother => exact .unread htext hbody hother
  | @markup text body other rest later event read htext hbody hother hevent h ih =>
    obtain ⟨size, hsize⟩ := hbody rest
    obtain ⟨length, hlength⟩ := hother later
    exact .markup htext hsize hlength hevent ih

/-! ### Nesting -/

/-- Tags with other paths have the same names, so the same elements are open. -/
theorem nest_alike {placed others : List (Nat × Event)}
    (h : List.Forall₂ (fun a b => Event.Respelled marker a.2 b.2) placed others)
    (opened : List Text) :
    List.Forall₂ (Event.Respelled marker) (nest opened placed).1 (nest opened others).1 ∧
      (nest opened placed).2.map Prod.snd = (nest opened others).2.map Prod.snd := by
  induction h generalizing opened with
  | nil => exact ⟨.nil, rfl⟩
  | @cons a b placed others hevent _ ih =>
    obtain ⟨place, event⟩ := a
    obtain ⟨place', event'⟩ := b
    -- An event that nests leaves the same elements open in both documents, whichever they are.
    have hgo : ∀ opened : List Text,
        List.Forall₂ (Event.Respelled marker) (event :: (nest opened placed).1)
          (event' :: (nest opened others).1) ∧
        (nest opened placed).2.map Prod.snd = (nest opened others).2.map Prod.snd :=
      fun opened => ⟨.cons hevent (ih opened).1, (ih opened).2⟩
    cases hevent with
    | opening htag =>
      simp only [nest, htag.name_eq, htag.other_name_eq]
      exact hgo _
    | empty htag =>
      simp only [nest]
      exact hgo opened
    | same event =>
      cases event with
      | opening tag =>
        simp only [nest]
        exact hgo _
      | closing name =>
        cases opened with
        | nil =>
          simp only [nest]
          exact ⟨.nil, rfl⟩
        | cons last opened =>
          simp only [nest]
          split
          · exact hgo opened
          · exact ⟨.nil, rfl⟩
      | empty tag | text raw | verbatim raw | aside =>
        simp only [nest]
        exact hgo opened

/-! ### Whole documents -/

theorem Respelled.dropByteOrderMark {s t : Text} (h : Respelled marker s t) :
    Respelled marker (Text.dropByteOrderMark s) (Text.dropByteOrderMark t) := by
  cases h with
  | same s => exact .same _
  | unread htext hbody hother =>
    obtain ⟨same, hsame, hdrop⟩ := dropByteOrderMark_append htext
    rw [hdrop, hdrop]
    exact .unread hsame hbody hother
  | markup htext hbody hother hevent h =>
    obtain ⟨same, hsame, hdrop⟩ := dropByteOrderMark_append htext
    rw [hdrop, hdrop]
    exact .markup hsame hbody hother hevent h

theorem map_withoutPlaces (nested scanned : Option (Nat × MarkupFault)) :
    ((nested <|> scanned).map fun fault => Fault.inMarkup fault.1 fault.2).map
        Fault.withoutPlaces =
      (nested.map Prod.snd <|> scanned.map Prod.snd).map (Fault.inMarkup 0) := by
  cases nested <;> cases scanned <;> rfl

/-- **Documents with other paths are read alike.** -/
theorem read_respelled {s t : Text} (h : Respelled marker s t) :
    (read s).Respelled marker (read t) := by
  obtain ⟨hevents, hfault⟩ := scansAlike_of_respelled h.dropByteOrderMark 0 0
  rw [List.forall₂_map_left_iff, List.forall₂_map_right_iff] at hevents
  obtain ⟨hnested, hnesting⟩ := nest_alike hevents []
  refine ⟨hnested, ?_⟩
  rw [read, read, map_withoutPlaces, map_withoutPlaces, hfault, hnesting]

end Xml

end DoxTriage
