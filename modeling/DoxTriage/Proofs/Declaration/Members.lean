import DoxTriage.Declaration.Members
import DoxTriage.Proofs.Xml.Reading

/-!
# The members of a tree

The declarations in a document can be read off its tree: each element `memberdef` is one, its line
comes from the first element `location` below it that names the source file, and its parameters are
what is written below its elements `argsstring`. The reader of events has neither tree nor elements;
it has one member in hand, and three facts about it. That it comes to the same is one statement
about the half-read member (`Member.afterTree`): after a whole tree it has the first line there is,
its own or one of the tree's, and it has more parameters, which are all characters of the tree while
it is inside an `argsstring`, and otherwise those below such elements.

The text that is pending in front of a tree counts as read, since the event for it comes before the
events of the tree.

## Main definitions

* `Xml.Content.line?`, `Xml.Content.parameters`, `Xml.Content.declarations`: what a tree says.
* `Member.afterTree`: the half-read member after a whole tree.

## Main results

* `Place.ofTag_tag`: what a written `location` names.
* `Progress.foldlM_inside`: a tree is read with a member in hand.
* `Progress.foldlM_outside`: a tree is read without one.
* `Declaration.ofDocument_print`: the declarations of a written tree.
-/

namespace DoxTriage

/-! ### What a tree says -/

/-- The line that a start tag names in a source file. -/
def Xml.Start.lineIn? (marker file : Text) (start : Xml.Start) : Option Nat :=
  match start.value? "file".toList, start.value? "line".toList with
  | some named, some line =>
    if sourceName marker named = file then Text.lineNumber? (Text.trim line) else none
  | _, _ => none

namespace Xml.Content

/-- The line that the first `location` names which names one in the source file. -/
def line? (marker file : Text) (content : Content) : Option Nat :=
  content.elements.findSome? fun element =>
    if element.1.name.text = Place.element then element.1.lineIn? marker file else none

/-- What is written below the elements `argsstring`. -/
def parameters (content : Content) : Text :=
  content.elements.flatMap fun element =>
    if element.1.name.text = Member.parametersElement then element.2.characters else []

/-- The declarations of a source file, in the order of the elements `memberdef`. -/
def declarations (marker file : Text) (content : Content) : List Declaration :=
  content.elements.filterMap fun element =>
    if element.1.name.text = Member.element then
      (element.2.line? marker file).map fun line => ⟨line, element.2.parameters⟩
    else none

end Xml.Content

/-! ### A written place -/

namespace Xml

theorem attribute?_cons (item : Name × Text) (items : List (Name × Text)) (key : Text) :
    attribute? (item :: items) key =
      if item.1.text = key then some item.2 else attribute? items key := by
  rw [attribute?, List.find?_cons]
  by_cases h : item.1.text = key
  · simp [h]
  · simp [h, attribute?]

theorem attribute?_eq_none {items : List (Name × Text)} {key : Text}
    (h : key ∉ items.map (·.1.text)) : attribute? items key = none := by
  rw [attribute?, Option.map_eq_none_iff, List.find?_eq_none]
  intro item hitem heq
  exact h (List.mem_map.2 ⟨item, hitem, of_decide_eq_true heq⟩)

end Xml

namespace Place

/-- A place after the values of some attributes. -/
def withValues (items : List (Xml.Name × Text)) (place : Place) : Place where
  file := (Xml.attribute? items "file".toList).or place.file
  line :=
    match Xml.attribute? items "line".toList with
    | some value => Text.lineNumber? (Text.trim value)
    | none => place.line

/-- Values are taken in one attribute after the other, as long as no name comes again. -/
theorem withValues_cons {item : Xml.Name × Text} {items : List (Xml.Name × Text)}
    (hnew : item.1.text ∉ items.map (·.1.text)) (place : Place) :
    (place.withValues [item]).withValues items = place.withValues (item :: items) := by
  have hnone : ∀ key, item.1.text = key → Xml.attribute? items key = none := by
    rintro key rfl
    exact Xml.attribute?_eq_none hnew
  have hone : ∀ key, Xml.attribute? [item] key = if item.1.text = key then some item.2 else none :=
    Xml.attribute?_cons item []
  simp only [withValues, Xml.attribute?_cons item items, hone]
  congr 1
  · by_cases hfile : item.1.text = "file".toList
    · rw [hnone _ hfile, if_pos hfile]
      rfl
    · rw [if_neg hfile, if_neg hfile]
      rfl
  · by_cases hline : item.1.text = "line".toList
    · rw [hnone _ hline, if_pos hline]
    · rw [if_neg hline, if_neg hline]

theorem takeIn_written (item : Xml.Name × Text) (place : Place) :
    place.takeIn (Xml.Start.written item) = .ok (place.withValues [item]) := by
  have hone : ∀ key, Xml.attribute? [item] key = if item.1.text = key then some item.2 else none :=
    Xml.attribute?_cons item []
  rw [takeIn, Xml.Start.written]
  simp only [Xml.unescape_escape, withValues, hone]
  by_cases hfile : item.1.text = "file".toList
  · have hline : item.1.text ≠ "line".toList := by
      rw [hfile]
      decide
    rw [if_pos hfile, if_pos hfile, if_neg hline]
    rfl
  · rw [if_neg hfile, if_neg hfile]
    by_cases hline : item.1.text = "line".toList
    · rw [if_pos hline, if_pos hline]
      rfl
    · rw [if_neg hline, if_neg hline]
      rfl

theorem foldlM_takeIn (items : List (Xml.Name × Text)) (hnodup : (items.map (·.1.text)).Nodup)
    (place : Place) :
    (items.map Xml.Start.written).foldlM takeIn place = .ok (place.withValues items) := by
  induction items generalizing place with
  | nil => rfl
  | cons item items ih =>
    rw [List.map_cons, List.nodup_cons] at hnodup
    rw [List.map_cons, List.foldlM_cons, takeIn_written, ← withValues_cons hnodup.1]
    exact ih hnodup.2 _

/-- What a written `location` names. -/
theorem ofTag_tag (start : Xml.Start) :
    ofTag start.tag = .ok (withValues start.attributes {}) := by
  rw [ofTag, start.attributes_tag]
  simp only [foldlM_takeIn start.attributes start.nodup_keys]

theorem lineIn?_withValues (marker file : Text) (start : Xml.Start) :
    (withValues start.attributes {}).lineIn? marker file = start.lineIn? marker file := by
  rw [lineIn?, withValues, Xml.Start.lineIn?, Xml.Start.value?, Xml.Start.value?, Option.or_none]
  cases Xml.attribute? start.attributes "file".toList with
  | none => rfl
  | some named =>
    cases Xml.attribute? start.attributes "line".toList with
    | none => exact ite_self _
    | some line => rfl

end Place

/-! ### What a tree says, piece by piece -/

namespace Xml

/-- The line that one element names in a source file, if it is a `location`. -/
def Start.place? (marker file : Text) (start : Start) : Option Nat :=
  if start.name.text = Place.element then start.lineIn? marker file else none

namespace Content

variable {marker file : Text}

theorem line?_empty (start : Start) (later : Content) :
    (empty start later).line? marker file =
      (start.place? marker file).or (later.line? marker file) := by
  simp only [line?, elements, List.findSome?_cons, Start.place?]
  generalize (if start.name.text = Place.element then _ else _) = found
  cases found <;> rfl

theorem line?_element (start : Start) (inner later : Content) :
    (element start inner later).line? marker file =
      ((start.place? marker file).or (inner.line? marker file)).or (later.line? marker file) := by
  simp only [line?, elements, List.findSome?_cons, List.findSome?_append, Start.place?]
  generalize (if start.name.text = Place.element then _ else _) = found
  cases found <;> rfl

theorem parameters_empty (start : Start) (later : Content) :
    (empty start later).parameters = later.parameters := by
  simp only [parameters, elements, List.flatMap_cons, characters, ite_self, List.nil_append]

theorem parameters_element (start : Start) (inner later : Content) :
    (element start inner later).parameters =
      (if start.name.text = Member.parametersElement then inner.characters else []) ++
        (inner.parameters ++ later.parameters) := by
  simp only [parameters, elements, List.flatMap_cons, List.flatMap_append]

theorem parameters_of_lacks {content : Content} (h : content.Lacks Member.parametersElement) :
    content.parameters = [] := by
  refine List.flatMap_eq_nil_iff.2 fun element hmem => ?_
  exact if_neg (h element hmem)

theorem declarations_of_lacks {content : Content} (h : content.Lacks Member.element) :
    content.declarations marker file = [] := by
  refine List.filterMap_eq_nil_iff.2 fun element hmem => ?_
  exact if_neg (h element hmem)

theorem declarations_empty (start : Start) (later : Content) :
    (empty start later).declarations marker file = later.declarations marker file := by
  have hnone : (nil : Content).line? marker file = none := rfl
  simp only [declarations, elements, List.filterMap_cons, hnone, Option.map_none, ite_self]

theorem declarations_element (start : Start) (inner later : Content) :
    (element start inner later).declarations marker file =
      (if start.name.text = Member.element then
          ((inner.line? marker file).map fun line => ⟨line, inner.parameters⟩).toList
        else []) ++ (inner.declarations marker file ++ later.declarations marker file) := by
  simp only [declarations, elements, List.filterMap_cons, List.filterMap_append]
  by_cases hname : start.name.text = Member.element
  · rw [if_pos hname, if_pos hname]
    cases inner.line? marker file <;> rfl
  · rw [if_neg hname, if_neg hname]
    rfl

end Content

end Xml

/-! ### A member in hand -/

namespace Member

variable {marker file : Text}

/-- The member after a text that has been read. -/
def read (text : Text) (member : Member) : Member :=
  if member.inParameters then member.append text else member

/-- The member after a look at a tag. -/
def look (marker file : Text) (start : Xml.Start) (member : Member) : Member :=
  { member with line := member.line.or (start.place? marker file) }

/-- The member after the start tag of an element. -/
def enter (name : Text) (member : Member) : Member :=
  { member with inParameters := member.inParameters || name = parametersElement }

/-- The member after the end tag of an element. -/
def leave (name : Text) (member : Member) : Member :=
  { member with inParameters := member.inParameters && name ≠ parametersElement }

/-- The member after a tree with a pending text in front of it. -/
def afterTree (marker file pending : Text) (content : Xml.Content) (member : Member) : Member :=
  { member with
    line := member.line.or (content.line? marker file)
    parameters := member.parameters ++
      if member.inParameters then pending ++ content.characters else content.parameters }

@[simp] theorem inParameters_read (text : Text) (member : Member) :
    (member.read text).inParameters = member.inParameters := by
  rw [read]
  split <;> rfl

theorem atPlace_tag (marker file : Text) (start : Xml.Start) (member : Member) :
    member.atPlace marker file start.tag =
      .ok { member with line := member.line.or (start.lineIn? marker file) } := by
  rw [atPlace, Place.ofTag_tag]
  rcases member with ⟨_ | line, parameters, inParameters⟩
  · rw [← Place.lineIn?_withValues]
    rfl
  · rfl

theorem after_empty (marker file : Text) (start : Xml.Start) (member : Member) :
    member.after marker file (.empty start.tag) = .ok (member.look marker file start) := by
  rw [after, start.name_tag, atPlace_tag, look, Xml.Start.place?]
  split
  · rfl
  · rw [Option.or_none]

theorem after_opening (marker file : Text) (start : Xml.Start) (member : Member) :
    member.after marker file (.opening start.tag) =
      .ok ((member.look marker file start).enter start.name.text) := by
  rw [after, start.name_tag, atPlace_tag, look, Xml.Start.place?]
  by_cases hplace : start.name.text = Place.element
  · have hne : start.name.text ≠ parametersElement := by
      rw [hplace]
      decide
    rw [if_pos hplace, if_pos hplace, enter, decide_eq_false hne, Bool.or_false]
  · rw [if_neg hplace, if_neg hplace, Option.or_none, enter]
    by_cases hparameters : start.name.text = parametersElement
    · rw [if_pos hparameters, decide_eq_true hparameters, Bool.or_true]
    · rw [if_neg hparameters, decide_eq_false hparameters, Bool.or_false]

theorem after_closing (marker file name : Text) (member : Member) :
    member.after marker file (.closing name) = .ok (member.leave name) := by
  rw [after, leave]
  by_cases hname : name = parametersElement
  · simp [hname]
  · simp [hname]

theorem after_text (marker file pending : Text) (member : Member) :
    member.after marker file (.text (Xml.escape pending)) = .ok (member.read pending) := by
  rw [after, Xml.unescape_escape, read]
  split <;> rfl

theorem after_verbatim (marker file text : Text) (member : Member) :
    member.after marker file (.verbatim text) = .ok (member.read text) := rfl

/-! ### A member and a whole tree -/

theorem afterTree_nil (pending : Text) (member : Member) :
    member.afterTree marker file pending .nil = member.read pending := by
  rcases member with ⟨line, parameters, _ | _⟩ <;>
    simp [afterTree, read, append, Xml.Content.line?, Xml.Content.parameters, Xml.Content.elements,
      Xml.Content.characters]

/-- A text in front of a tree is read when it is pending no longer. -/
theorem afterTree_pending (pending : Text) (content : Xml.Content) (member : Member) :
    member.afterTree marker file pending content =
      (member.read pending).afterTree marker file [] content := by
  rcases member with ⟨line, parameters, _ | _⟩ <;> simp [afterTree, read, append]

theorem afterTree_text (pending s : Text) (later : Xml.Content) (member : Member) :
    member.afterTree marker file pending (.text s later) =
      member.afterTree marker file (pending ++ s) later := by
  simp only [afterTree, Xml.Content.characters, List.append_assoc]
  rfl

theorem afterTree_verbatim (s : Xml.Verbatim) (later : Xml.Content) (member : Member) :
    member.afterTree marker file [] (.verbatim s later) =
      (member.read s.text).afterTree marker file [] later := by
  rw [← afterTree_pending]
  rfl

theorem afterTree_empty (start : Xml.Start) (later : Xml.Content) (member : Member) :
    member.afterTree marker file [] (.empty start later) =
      (member.look marker file start).afterTree marker file [] later := by
  simp only [afterTree, look, Xml.Content.line?_empty, Xml.Content.parameters_empty,
    Option.or_assoc]
  rfl

theorem afterTree_element (start : Xml.Start) {inner : Xml.Content} (later : Xml.Content)
    {member : Member}
    (hinner : start.name.text = parametersElement → inner.Lacks parametersElement)
    (houter : member.inParameters = true → start.name.text ≠ parametersElement) :
    member.afterTree marker file [] (.element start inner later) =
      ((((member.look marker file start).enter start.name.text).afterTree
        marker file [] inner).leave start.name.text).afterTree marker file [] later := by
  rcases member with ⟨line, parameters, inParameters⟩
  by_cases hname : start.name.text = parametersElement
  · have hout : inParameters = false := by
      cases inParameters with
      | false => rfl
      | true => exact absurd hname (houter rfl)
    simp [afterTree, look, enter, leave, hname, hout, Option.or_assoc, Xml.Content.line?_element,
      Xml.Content.parameters_element, Xml.Content.parameters_of_lacks (hinner hname)]
  · cases inParameters <;>
      simp [afterTree, look, enter, leave, hname, Option.or_assoc, Xml.Content.line?_element,
        Xml.Content.parameters_element, Xml.Content.characters]

end Member

namespace Progress

variable {marker file : Text}

/-! ### Reading with a member in hand -/

theorem foldlM_cons_of_after {progress next : Progress} {event : Xml.Event}
    (h : progress.after marker file event = .ok next) (events : List Xml.Event) :
    (event :: events).foldlM (Progress.after marker file) progress =
      events.foldlM (Progress.after marker file) next := by
  rw [List.foldlM_cons, h]
  rfl

/-- An event that neither begins nor ends a member is for the member in hand. -/
theorem after_inside {event : Xml.Event} (hbegins : beginsMember event = false)
    (hends : event ≠ .closing Member.element) {member next : Member} (found : List Declaration)
    (h : member.after marker file event = .ok next) :
    Progress.after marker file ⟨some member, found⟩ event = .ok ⟨some next, found⟩ := by
  rw [Progress.after, hbegins, if_neg Bool.false_ne_true, if_neg hends]
  simp only [h]
  rfl

theorem beginsMember_opening (start : Xml.Start) :
    beginsMember (.opening start.tag) = decide (start.name.text = Member.element) := by
  rw [beginsMember, start.name_tag]

theorem foldlM_textEvent (pending : Text) (member : Member) (found : List Declaration)
    (events : List Xml.Event) :
    (Xml.textEvent pending ++ events).foldlM (Progress.after marker file) ⟨some member, found⟩ =
      events.foldlM (Progress.after marker file) ⟨some (member.read pending), found⟩ := by
  rw [Xml.textEvent]
  by_cases h : pending = []
  · have hread : member.read pending = member := by
      rw [h, Member.read, Member.append, List.append_nil]
      exact ite_self member
    rw [if_pos h, hread]
    rfl
  · rw [if_neg h]
    exact foldlM_cons_of_after
      (after_inside rfl Xml.Event.noConfusion found (member.after_text marker file pending)) events

/-- A piece of markup after a pending text, with a member in hand. -/
theorem foldlM_piece (pending : Text) {event : Xml.Event} (hbegins : beginsMember event = false)
    (hends : event ≠ .closing Member.element) {member next : Member} (found : List Declaration)
    (h : (member.read pending).after marker file event = .ok next) (later events : List Xml.Event) :
    (Xml.textEvent pending ++ event :: later ++ events).foldlM (Progress.after marker file)
        ⟨some member, found⟩ =
      (later ++ events).foldlM (Progress.after marker file) ⟨some next, found⟩ := by
  rw [List.append_assoc, foldlM_textEvent, List.cons_append,
    foldlM_cons_of_after (after_inside hbegins hends found h)]

/-- **A tree inside a member.** With a member in hand, the events of a tree without members make it
the member over that tree. -/
theorem foldlM_inside (content : Xml.Content) (pending : Text) {member : Member}
    (found : List Declaration) (hmember : content.Lacks Member.element)
    (hseparate : content.Separate Member.parametersElement)
    (hinside : member.inParameters = true → content.Lacks Member.parametersElement)
    (events : List Xml.Event) :
    (content.eventsAfter pending ++ events).foldlM (Progress.after marker file)
        ⟨some member, found⟩ =
      events.foldlM (Progress.after marker file)
        ⟨some (member.afterTree marker file pending content), found⟩ := by
  induction content generalizing pending member events with
  | nil => rw [Member.afterTree_nil, Xml.Content.eventsAfter, foldlM_textEvent]
  | text s later ih =>
    rw [Member.afterTree_text]
    exact ih (pending ++ s) hmember hseparate hinside events
  | verbatim s later ih =>
    rw [Xml.Content.eventsAfter, Member.afterTree_pending, Member.afterTree_verbatim,
      foldlM_piece pending rfl Xml.Event.noConfusion found (Member.after_verbatim marker file _ _)]
    refine ih [] hmember hseparate (fun hin => hinside ?_) events
    rwa [Member.inParameters_read, Member.inParameters_read] at hin
  | comment s later ih | instruction s later ih =>
    rw [Xml.Content.eventsAfter, Member.afterTree_pending,
      foldlM_piece pending rfl Xml.Event.noConfusion found rfl]
    refine ih [] hmember hseparate (fun hin => hinside ?_) events
    rwa [Member.inParameters_read] at hin
  | empty start later ih =>
    rw [Xml.Content.lacks_empty] at hmember
    rw [Xml.Content.separate_empty] at hseparate
    rw [Xml.Content.eventsAfter, Member.afterTree_pending, Member.afterTree_empty,
      foldlM_piece pending rfl Xml.Event.noConfusion found (Member.after_empty marker file _ _)]
    refine ih [] hmember.2 hseparate (fun hin => ?_) events
    rw [Member.look, Member.inParameters_read] at hin
    exact (Xml.Content.lacks_empty.1 (hinside hin)).2
  | element start inner later ihInner ihLater =>
    obtain ⟨hname, hmemberInner, hmemberLater⟩ := Xml.Content.lacks_element.1 hmember
    obtain ⟨hown, hseparateInner, hseparateLater⟩ := Xml.Content.separate_element.1 hseparate
    have hlacks := fun hin => Xml.Content.lacks_element.1 (hinside hin)
    have hbegins : beginsMember (.opening start.tag) = false := by
      rw [beginsMember_opening, decide_eq_false hname]
    have hends : Xml.Event.closing start.name.text ≠ .closing Member.element := by
      simpa using hname
    have houter : (member.read pending).inParameters = true →
        start.name.text ≠ Member.parametersElement := by
      intro hin
      rw [Member.inParameters_read] at hin
      exact (hlacks hin).1
    have hentered : (((member.read pending).look marker file start).enter
        start.name.text).inParameters = true → inner.Lacks Member.parametersElement := by
      intro hin
      have hin : member.inParameters = true ∨ start.name.text = Member.parametersElement := by
        simpa [Member.enter, Member.look] using hin
      exact hin.elim (fun hin => (hlacks hin).2.1) hown
    rw [Xml.Content.eventsAfter, Member.afterTree_pending,
      Member.afterTree_element start later hown houter,
      foldlM_piece pending hbegins Xml.Event.noConfusion found
        (Member.after_opening marker file start _),
      List.append_assoc, ihInner [] hmemberInner hseparateInner hentered, List.cons_append,
      foldlM_cons_of_after (after_inside rfl hends found (Member.after_closing marker file _ _))]
    refine ihLater [] hmemberLater hseparateLater (fun hin => ?_) events
    have hin : (member.inParameters = true ∨ start.name.text = Member.parametersElement) ∧
        start.name.text ≠ Member.parametersElement := by
      simpa [Member.leave, Member.afterTree, Member.enter, Member.look] using hin
    exact (hlacks (hin.1.resolve_right hin.2)).2.2

/-! ### Reading without a member in hand -/

/-- Without a member in hand, an event that does not begin one is passed over. -/
theorem after_outside {event : Xml.Event} (hbegins : beginsMember event = false)
    (found : List Declaration) :
    Progress.after marker file ⟨none, found⟩ event = .ok ⟨none, found⟩ := by
  rw [Progress.after, hbegins, if_neg Bool.false_ne_true]
  split <;> rfl

theorem foldlM_textEvent_outside (pending : Text) (found : List Declaration)
    (events : List Xml.Event) :
    (Xml.textEvent pending ++ events).foldlM (Progress.after marker file) ⟨none, found⟩ =
      events.foldlM (Progress.after marker file) ⟨none, found⟩ := by
  rw [Xml.textEvent]
  split
  · rfl
  · exact foldlM_cons_of_after (after_outside rfl found) events

/-- A piece of markup after a pending text, without a member in hand. -/
theorem foldlM_piece_outside (pending : Text) {event : Xml.Event}
    (hbegins : beginsMember event = false) (found : List Declaration)
    (later events : List Xml.Event) :
    (Xml.textEvent pending ++ event :: later ++ events).foldlM (Progress.after marker file)
        ⟨none, found⟩ =
      (later ++ events).foldlM (Progress.after marker file) ⟨none, found⟩ := by
  rw [List.append_assoc, foldlM_textEvent_outside, List.cons_append,
    foldlM_cons_of_after (after_outside hbegins found)]

/-- A new member over a tree is the declaration that the tree describes, if it names a line. -/
theorem declaration?_afterTree (inner : Xml.Content) :
    (({} : Member).afterTree marker file [] inner).declaration? =
      (inner.line? marker file).map fun line => ⟨line, inner.parameters⟩ := rfl

/-- **A member.** Its start tag, a tree without members and its end tag add the declaration that the
tree describes, if it names a line. -/
theorem foldlM_member {start : Xml.Start} (hname : start.name.text = Member.element)
    (inner : Xml.Content) (found : List Declaration) (hmember : inner.Lacks Member.element)
    (hseparate : inner.Separate Member.parametersElement) (events : List Xml.Event) :
    (.opening start.tag :: (inner.eventsAfter [] ++ .closing start.name.text :: events)).foldlM
        (Progress.after marker file) ⟨none, found⟩ =
      events.foldlM (Progress.after marker file)
        ⟨none, ((inner.line? marker file).map fun line => ⟨line, inner.parameters⟩).toList ++
          found⟩ := by
  have hopening : Progress.after marker file ⟨none, found⟩ (.opening start.tag) =
      .ok ⟨some {}, found⟩ := by
    rw [Progress.after, beginsMember_opening, decide_eq_true hname, if_pos rfl]
  have hclosing : ∀ member, Progress.after marker file ⟨some member, found⟩
      (.closing start.name.text) = .ok ⟨none, member.declaration?.toList ++ found⟩ := by
    intro member
    rw [hname]
    rfl
  rw [foldlM_cons_of_after hopening,
    foldlM_inside inner [] found hmember hseparate Bool.noConfusion,
    foldlM_cons_of_after (hclosing _), declaration?_afterTree]

/-- **A tree outside members.** Without a member in hand, the events of a tree add the declarations
of the tree to those that have been found. -/
theorem foldlM_outside (marker file : Text) (content : Xml.Content) (pending : Text)
    (found : List Declaration) (hmember : content.Separate Member.element)
    (hseparate : content.Separate Member.parametersElement) (events : List Xml.Event) :
    (content.eventsAfter pending ++ events).foldlM (Progress.after marker file) ⟨none, found⟩ =
      events.foldlM (Progress.after marker file)
        ⟨none, (content.declarations marker file).reverse ++ found⟩ := by
  induction content generalizing pending found events with
  | nil => exact foldlM_textEvent_outside pending found events
  | text s later ih => exact ih (pending ++ s) found hmember hseparate events
  | verbatim s later ih | comment s later ih | instruction s later ih =>
    rw [Xml.Content.eventsAfter, foldlM_piece_outside pending rfl]
    exact ih [] found hmember hseparate events
  | empty start later ih =>
    rw [Xml.Content.separate_empty] at hmember hseparate
    rw [Xml.Content.eventsAfter, foldlM_piece_outside pending rfl,
      Xml.Content.declarations_empty]
    exact ih [] found hmember hseparate events
  | element start inner later ihInner ihLater =>
    obtain ⟨hown, hmemberInner, hmemberLater⟩ := Xml.Content.separate_element.1 hmember
    obtain ⟨-, hseparateInner, hseparateLater⟩ := Xml.Content.separate_element.1 hseparate
    rw [Xml.Content.eventsAfter, Xml.Content.declarations_element]
    by_cases hname : start.name.text = Member.element
    · rw [List.append_assoc, foldlM_textEvent_outside, List.cons_append, List.append_assoc,
        List.cons_append, foldlM_member hname inner found (hown hname) hseparateInner,
        ihLater [] _ hmemberLater hseparateLater, if_pos hname,
        Xml.Content.declarations_of_lacks (hown hname)]
      cases inner.line? marker file <;> simp
    · have hbegins : beginsMember (.opening start.tag) = false := by
        rw [beginsMember_opening, decide_eq_false hname]
      rw [foldlM_piece_outside pending hbegins, List.append_assoc,
        ihInner [] found hmemberInner hseparateInner, List.cons_append,
        foldlM_cons_of_after (after_outside rfl _), ihLater [] _ hmemberLater hseparateLater,
        if_neg hname]
      simp

end Progress

/-! ### Documents -/

namespace Declaration

/-- **The declarations of a written tree.** Whatever stands in a document and around its members, as
long as no member and no parameter list is below another one, reading the document succeeds and
gives the declarations of its tree in ascending order, repetitions included. -/
theorem ofDocument_print (marker file : Text) {content : Xml.Content}
    (hmember : content.Separate Member.element)
    (hparameters : content.Separate Member.parametersElement) :
    ∃ found, ofDocument marker file content.print = .ok found ∧
      found.Perm (content.declarations marker file) ∧
      found.Pairwise fun a b => a.before b = true := by
  obtain ⟨same, helements, hread⟩ := Xml.read_print content
  have hdeclarations : same.declarations marker file = content.declarations marker file := by
    rw [Xml.Content.declarations, helements, Xml.Content.declarations]
  rw [Xml.Content.Separate, ← helements] at hmember hparameters
  have hfold : (same.eventsAfter []).foldlM (Progress.after marker file) {} =
      .ok ⟨none, (content.declarations marker file).reverse⟩ := by
    have hall := Progress.foldlM_outside marker file same [] [] hmember hparameters []
    rw [List.append_nil, List.append_nil, hdeclarations] at hall
    exact hall
  refine ⟨sort (content.declarations marker file).reverse, ?_, ?_, pairwise_sort _⟩
  · rw [ofDocument, ofReading, hread]
    simp only [hfold]
  · exact (sort_perm _).trans (List.reverse_perm _)

/-- A parameter list in four pieces, and a line in the second place, with the attributes in another
order. -/
theorem ofDocument_print_pieces :
    let memberdef : Xml.Name := ⟨"memberdef".toList, by decide +kernel, by decide +kernel⟩
    let argsstring : Xml.Name := ⟨"argsstring".toList, by decide +kernel, by decide +kernel⟩
    let location : Xml.Name := ⟨"location".toList, by decide +kernel, by decide +kernel⟩
    let file : Xml.Name := ⟨"file".toList, by decide +kernel, by decide +kernel⟩
    let line : Xml.Name := ⟨"line".toList, by decide +kernel, by decide +kernel⟩
    let content : Xml.Content :=
      .element ⟨memberdef, [], by decide⟩
        (.element ⟨argsstring, [], by decide⟩
          (.text "(a<".toList (.comment ⟨"&".toList, by decide +kernel⟩
            (.verbatim ⟨"b>&amp;".toList, by decide +kernel⟩
              (.text " ".toList (.text "c)".toList .nil)))))
          (.element ⟨location, [(file, "/ci/src/g.hpp".toList), (line, "7".toList)],
              by decide +kernel⟩ .nil
            (.empty ⟨location, [(line, " 8".toList), (file, "/ci/src/f.hpp".toList)],
              by decide +kernel⟩ .nil)))
        .nil
    content.Separate Member.element ∧ content.Separate Member.parametersElement ∧
      ∃ found, ofDocument "src/".toList "src/f.hpp".toList content.print = .ok found ∧
        found.Perm [⟨8, "(a<b>&amp; c)".toList⟩] := by
  intro memberdef argsstring location file line content
  have hmember : content.Separate Member.element := by decide +kernel
  have hparameters : content.Separate Member.parametersElement := by decide +kernel
  have hdeclarations : content.declarations "src/".toList "src/f.hpp".toList =
      [⟨8, "(a<b>&amp; c)".toList⟩] := by decide +kernel
  obtain ⟨found, hfound, hperm, -⟩ :=
    ofDocument_print "src/".toList "src/f.hpp".toList hmember hparameters
  exact ⟨hmember, hparameters, found, hfound, hdeclarations ▸ hperm⟩

end Declaration

end DoxTriage
