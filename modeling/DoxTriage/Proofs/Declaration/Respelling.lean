import DoxTriage.Proofs.Xml.Respelling

/-!
# Declarations do not depend on how paths are written

A place is compared with a source file by name, so of the path in it only the name matters. Two
places are alike if their lines and the names of their files are the same; an attribute with another
path to the same file leads from like places to like places, and what a member takes from them is
the same. From there on the two readings of a document are in the same state after every event.

## Main definitions

* `Place.Alike`: places that name the same source file and line.

## Main results

* `Declaration.ofDocument_respelled`: the declarations in a document with other paths.
-/

namespace DoxTriage

variable {marker file : Text}

/-! ### Faults at the end -/

/-- What was read, unless the reading ended with a fault. -/
def unlessFault {α : Type} (fault : Option Xml.Fault) (a : α) : Except Xml.Fault α :=
  match fault with
  | some fault => .error fault
  | none => .ok a

theorem unlessFault_agree {α : Type} {same : α → α → Prop} {fault other : Option Xml.Fault}
    {a b : α} (h : fault.map Xml.Fault.withoutPlaces = other.map Xml.Fault.withoutPlaces)
    (hsame : same a b) :
    Except.Agree Xml.Fault.Alike same (unlessFault fault a) (unlessFault other b) := by
  cases fault with
  | none =>
    rw [Option.map_none, eq_comm, Option.map_eq_none_iff] at h
    rw [h]
    exact .ok hsame
  | some fault =>
    rw [Option.map_some, eq_comm, Option.map_eq_some_iff] at h
    obtain ⟨later, hlater, halike⟩ := h
    rw [hlater]
    exact .error halike.symm

/-! ### Places -/

namespace Place

/-- Two places with the same line, and with paths to the same source file. -/
structure Alike (marker : Text) (place other : Place) : Prop where
  file_eq : place.file.map (sourceName marker) = other.file.map (sourceName marker)
  line_eq : place.line = other.line

theorem Alike.lineIn?_eq {place other : Place} (h : place.Alike marker other) (file : Text) :
    place.lineIn? marker file = other.lineIn? marker file := by
  have hname : ∀ place : Place, place.lineIn? marker file =
      (place.file.map (sourceName marker)).bind fun name =>
        if name = file then place.line else none := by
    intro place
    rw [lineIn?]
    cases place.file <;> rfl
  rw [hname, hname, h.file_eq, h.line_eq]

/-- An attribute leads from like places to like places. -/
theorem Alike.takeIn {place other : Place} {item read : Xml.Attribute}
    (h : place.Alike marker other) (hitem : item.Respelled marker read) :
    Except.Agree Xml.Fault.Alike (Alike marker) (place.takeIn item) (other.takeIn read) := by
  cases hitem with
  | same item =>
    have hvalue : Except.Agree Xml.Fault.Alike (· = ·) ((Xml.unescape item.raw).mapError .inEntity)
        ((Xml.unescape item.raw).mapError .inEntity) :=
      .refl Xml.Fault.Alike.refl (fun _ => rfl) _
    rw [Place.takeIn, Place.takeIn]
    split
    · refine hvalue.map ?_
      rintro value _ rfl
      exact ⟨rfl, h.line_eq⟩
    · split
      · refine hvalue.map ?_
        rintro value _ rfl
        exact ⟨h.file_eq, rfl⟩
      · exact .ok h
  | file hraw hother hname =>
    rw [Place.takeIn, Place.takeIn, if_pos rfl, if_pos rfl, hraw, hother]
    exact .ok ⟨congrArg some hname, h.line_eq⟩

theorem ofTag_eq (tag : Xml.Tag) :
    ofTag tag =
      tag.attributes.1.foldlM takeIn {} >>= unlessFault (tag.attributes.2.map .inTag) := by
  rw [ofTag]
  cases tag.attributes.1.foldlM takeIn {} with
  | error fault => rfl
  | ok place => cases tag.attributes.2 <;> rfl

/-- Two tags with paths to the same file name like places, or have the same fault. -/
theorem ofTag_respelled {tag other : Xml.Tag} (h : tag.Respelled marker other) :
    Except.Agree Xml.Fault.Alike (Alike marker) (ofTag tag) (ofTag other) := by
  have hitems := Except.Agree.foldlM h.attributes (fun _ _ _ _ => Alike.takeIn)
    (⟨rfl, rfl⟩ : Alike marker {} {})
  have hfault := congrArg (Option.map Xml.Fault.inTag) h.fault_eq
  rw [Option.map_map, Option.map_map] at hfault
  rw [ofTag_eq, ofTag_eq]
  refine hitems.bind fun place read hplace => unlessFault_agree ?_ hplace
  rw [Option.map_map, Option.map_map]
  exact hfault

end Place

/-! ### Members -/

variable {event read : Xml.Event}

theorem Member.atPlace_respelled {tag other : Xml.Tag} (h : tag.Respelled marker other)
    (member : Member) :
    Except.Agree Xml.Fault.Alike (· = ·) (member.atPlace marker file tag)
      (member.atPlace marker file other) := by
  rw [atPlace, atPlace]
  split
  · exact .ok rfl
  · refine (Place.ofTag_respelled h).map fun place read hplace => ?_
    rw [hplace.lineIn?_eq]

theorem Member.after_respelled (h : event.Respelled marker read) (member : Member) :
    Except.Agree Xml.Fault.Alike (· = ·) (member.after marker file event)
      (member.after marker file read) := by
  cases h with
  | same event => exact .refl Xml.Fault.Alike.refl (fun _ => rfl) _
  | opening htag =>
    rw [after, after, if_pos htag.name_eq, if_pos htag.other_name_eq]
    exact member.atPlace_respelled htag
  | empty htag =>
    rw [after, after, if_pos htag.name_eq, if_pos htag.other_name_eq]
    exact member.atPlace_respelled htag

namespace Progress

/-- An event that is the tag of a `location`. -/
def IsLocation (event : Xml.Event) : Prop :=
  ∃ tag : Xml.Tag, (event = .opening tag ∨ event = .empty tag) ∧ tag.name = Place.element

/-- The member in hand is what a `location` is for. -/
theorem after_location (h : IsLocation event) (progress : Progress) :
    progress.after marker file event =
      match progress.member with
      | none => .ok progress
      | some member =>
        (member.after marker file event).map fun member =>
          { progress with member := some member } := by
  obtain ⟨tag, hevent, hname⟩ := h
  have hbegins : ¬ beginsMember event = true := by
    rcases hevent with rfl | rfl
    · rw [beginsMember, hname]
      decide
    · exact Bool.false_ne_true
  have hends : event ≠ .closing Member.element := by
    rcases hevent with rfl | rfl <;> exact Xml.Event.noConfusion
  rw [after, if_neg hbegins]
  exact if_neg hends

theorem eq_or_isLocation (h : event.Respelled marker read) :
    event = read ∨ IsLocation event ∧ IsLocation read := by
  cases h with
  | same event => exact .inl rfl
  | opening htag =>
    exact .inr ⟨⟨_, .inl rfl, htag.name_eq⟩, ⟨_, .inl rfl, htag.other_name_eq⟩⟩
  | empty htag =>
    exact .inr ⟨⟨_, .inr rfl, htag.name_eq⟩, ⟨_, .inr rfl, htag.other_name_eq⟩⟩

theorem after_respelled (h : event.Respelled marker read) (progress : Progress) :
    Except.Agree Xml.Fault.Alike (· = ·) (progress.after marker file event)
      (progress.after marker file read) := by
  -- Only a member in hand looks at a `location`; all other events are the same in both documents.
  rcases eq_or_isLocation h with rfl | ⟨hevent, hread⟩
  · exact .refl Xml.Fault.Alike.refl (fun _ => rfl) _
  · rw [after_location hevent, after_location hread]
    cases progress.member with
    | none => exact .ok rfl
    | some member =>
      refine (member.after_respelled h).map ?_
      rintro member _ rfl
      rfl

end Progress

/-! ### Documents -/

namespace Declaration

theorem ofReading_eq (reading : Xml.Reading) :
    ofReading marker file reading =
      reading.events.foldlM (Progress.after marker file) {} >>= fun progress =>
        unlessFault reading.fault (sort progress.found) := by
  rw [ofReading]
  cases reading.events.foldlM (Progress.after marker file) {} with
  | error fault => rfl
  | ok place => cases reading.fault <;> rfl

theorem ofReading_respelled {reading other : Xml.Reading} (h : reading.Respelled marker other)
    (file : Text) :
    Except.Agree Xml.Fault.Alike (· = ·) (ofReading marker file reading)
      (ofReading marker file other) := by
  have hevents : Except.Agree Xml.Fault.Alike (· = ·)
      (reading.events.foldlM (Progress.after marker file) {})
      (other.events.foldlM (Progress.after marker file) {}) := by
    refine Except.Agree.foldlM h.events ?_ rfl
    rintro progress _ event read rfl hevent
    exact Progress.after_respelled hevent progress
  rw [ofReading_eq, ofReading_eq]
  refine hevents.bind ?_
  rintro progress _ rfl
  exact unlessFault_agree h.fault_eq rfl

/-- **The declarations in a document with other paths** are the same, or both documents have the
same fault. -/
theorem ofDocument_respelled {document other : Text} (h : Xml.Respelled marker document other)
    (file : Text) :
    Except.Agree Xml.Fault.Alike (· = ·) (ofDocument marker file document)
      (ofDocument marker file other) :=
  ofReading_respelled (Xml.read_respelled h) file

end Declaration

end DoxTriage
