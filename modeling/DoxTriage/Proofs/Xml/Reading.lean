import DoxTriage.Proofs.Xml.Markup
import Mathlib.Data.List.TakeWhile

/-!
# A written tree is read back

The events of a tree are what its pieces say, one after the other, with one reservation: texts that
stand side by side are written as one and read as one. So the events of a tree depend on a text that
has been gathered in front of it and is still pending, and a piece of markup, or the end of the
element, is what ends it.

Reading has two steps that look at the whole document, and each is followed by one induction over
the tree. The statement of each is about a tree in front of something else, and all that is assumed
about the other thing is how it is read after a pending text. Places do not matter, since there is
no fault to report.

## Main definitions

* `Xml.Content.eventsAfter`: the events of a tree after a pending text.
* `Xml.Scans`, `Xml.Nests`: the two steps succeed, wherever the document begins.

## Main results

* `Xml.scans_print`, `Xml.nests_eventsAfter`: the two steps on a written tree.
* `Xml.read_print`: a written tree is read as its events.
-/

namespace DoxTriage

namespace Xml

/-! ### The events of a tree -/

/-- The event of a text as it is written, if there is any. -/
def rawEvent (raw : Text) : List Event :=
  if raw = [] then [] else [.text raw]

/-- The event of a text that has been gathered, if there is any. -/
def textEvent (pending : Text) : List Event :=
  if pending = [] then [] else [.text (escape pending)]

theorem textEvent_eq (pending : Text) : textEvent pending = rawEvent (escape pending) := by
  rw [textEvent, rawEvent]
  by_cases h : pending = []
  · rw [if_pos h, if_pos (escape_eq_nil_iff.2 h)]
  · rw [if_neg h, if_neg (mt escape_eq_nil_iff.1 h)]

/-- The events of a tree, after a text that has been gathered in front of it. -/
def Content.eventsAfter (pending : Text) : Content → List Event
  | nil => textEvent pending
  | text s later => later.eventsAfter (pending ++ s)
  | verbatim s later => textEvent pending ++ .verbatim s.text :: later.eventsAfter []
  | comment _ later | instruction _ later =>
    textEvent pending ++ .aside :: later.eventsAfter []
  | empty start later => textEvent pending ++ .empty start.tag :: later.eventsAfter []
  | element start inner later =>
    textEvent pending ++ .opening start.tag ::
      (inner.eventsAfter [] ++ .closing start.name.text :: later.eventsAfter [])

/-! ### Scanning -/

theorem scan_text {raw : Text} (h : '<' ∉ raw) (place : Nat) :
    scan place raw = (textEvents place raw, none) := by
  have hall := Text.ne_of_not_mem h
  have htext : raw.takeWhile (· ≠ '<') = raw := List.takeWhile_eq_self_iff.2 hall
  have hnone : raw.dropWhile (· ≠ '<') = [] := List.dropWhile_eq_nil_iff.2 hall
  rw [scan, htext]
  split
  · rfl
  · next hs =>
    rw [hnone] at hs
    cases hs

theorem scan_markup {raw body rest : Text} {event : Event} {size : Nat} (h : '<' ∉ raw)
    (hread : readMarkup body = .ok (event, size, rest)) (place : Nat) :
    ∃ start next, scan place (raw ++ '<' :: body) =
      (textEvents place raw ++ (start, event) :: (scan next rest).1, (scan next rest).2) := by
  have htext : (raw ++ '<' :: body).takeWhile (· ≠ '<') = raw := Text.takeWhile_ne_span h
  have hmarkup : (raw ++ '<' :: body).dropWhile (· ≠ '<') = '<' :: body := Text.dropWhile_ne_span h
  refine ⟨place + Text.utf8Length raw, place + Text.utf8Length raw + size, ?_⟩
  rw [scan, htext]
  split
  · next hs =>
    rw [hmarkup] at hs
    cases hs
  · next hs =>
    rw [hmarkup] at hs
    cases hs
    split
    · next hm =>
      rw [hread] at hm
      cases hm
    · next hm =>
      rw [hread] at hm
      cases hm
      rfl

theorem scan_fault {raw body : Text} {offset : Nat} {fault : MarkupFault} (h : '<' ∉ raw)
    (hread : readMarkup body = .error (offset, fault)) (place : Nat) :
    ∃ start, scan place (raw ++ '<' :: body) = (textEvents place raw, some (start, fault)) := by
  have htext : (raw ++ '<' :: body).takeWhile (· ≠ '<') = raw := Text.takeWhile_ne_span h
  have hmarkup : (raw ++ '<' :: body).dropWhile (· ≠ '<') = '<' :: body := Text.dropWhile_ne_span h
  refine ⟨place + Text.utf8Length raw + offset, ?_⟩
  rw [scan, htext]
  split
  · next hs =>
    rw [hmarkup] at hs
    cases hs
  · next hs =>
    rw [hmarkup] at hs
    cases hs
    split
    · next hm =>
      rw [hread] at hm
      cases hm
      rfl
    · next hm =>
      rw [hread] at hm
      cases hm

/-- Wherever it begins, the text is cut into these events, and there is no fault. -/
def Scans (s : Text) (events : List Event) : Prop :=
  ∀ place, (scan place s).1.map Prod.snd = events ∧ (scan place s).2 = none

theorem snd_textEvents (place : Nat) (raw : Text) :
    (textEvents place raw).map Prod.snd = rawEvent raw := by
  unfold textEvents rawEvent
  split <;> rfl

theorem scans_raw {raw : Text} (h : '<' ∉ raw) : Scans raw (rawEvent raw) := by
  intro place
  rw [scan_text h]
  exact ⟨snd_textEvents place raw, rfl⟩

theorem markup_eq (body rest : Text) : markup body rest = '<' :: (body ++ '>' :: rest) :=
  List.cons_append

/-- A text and a piece of markup in front of what is cut into known events. -/
theorem scans_piece {raw body s : Text} {event : Event} {events : List Event} (hraw : '<' ∉ raw)
    (hread : Reads body event) (h : Scans s events) :
    Scans (raw ++ markup body s) (rawEvent raw ++ event :: events) := by
  intro place
  obtain ⟨size, hsize⟩ := hread s
  obtain ⟨start, next, hscan⟩ := scan_markup hraw hsize place
  rw [markup_eq, hscan, List.map_append, List.map_cons, snd_textEvents, (h next).1]
  exact ⟨rfl, (h next).2⟩

theorem scans_text (pending : Text) : Scans (escape pending) (textEvent pending) := by
  rw [textEvent_eq]
  exact scans_raw (not_mem_escape (by decide) pending)

/-- A piece of markup in front of what is cut into known events. -/
theorem scans_markup {body : Text} {event : Event} (hread : Reads body event) (pending : Text)
    {printed rest : Text} {read events : List Event}
    (h : Scans (printed ++ rest) (read ++ events)) :
    Scans (escape pending ++ (markup body printed ++ rest))
      (textEvent pending ++ event :: read ++ events) := by
  have hmarkup : markup body printed ++ rest = markup body (printed ++ rest) := by
    simp [markup]
  rw [hmarkup, textEvent_eq, List.append_assoc, List.cons_append]
  exact scans_piece (not_mem_escape (by decide) pending) hread h

/-- A written tree in front of something is cut into its events and the events of the other thing,
if these are known after any pending text. -/
theorem scans_print (content : Content) (pending : Text) {rest : Text} {events : List Event}
    (hrest : ∀ pending, Scans (escape pending ++ rest) (textEvent pending ++ events)) :
    Scans (escape pending ++ (content.print ++ rest)) (content.eventsAfter pending ++ events) := by
  induction content generalizing pending rest events with
  | nil => exact hrest pending
  | text s later ih =>
    rw [Content.print, List.append_assoc, ← List.append_assoc, ← escape_append]
    exact ih (pending ++ s) hrest
  | verbatim s later ih => exact scans_markup (reads_verbatim s) pending (ih [] hrest)
  | comment s later ih => exact scans_markup (reads_comment s) pending (ih [] hrest)
  | instruction s later ih => exact scans_markup (reads_instruction s) pending (ih [] hrest)
  | empty start later ih => exact scans_markup (reads_empty start) pending (ih [] hrest)
  | element start inner later ihInner ihLater =>
    -- The end tag and what follows it are what the inner tree is in front of.
    have hlater : ∀ pending, Scans
        (escape pending ++ (markup ('/' :: start.name.text) later.print ++ rest))
        (textEvent pending ++ .closing start.name.text :: later.eventsAfter [] ++ events) :=
      fun pending => scans_markup (reads_closing start.name) pending (ihLater [] hrest)
    simp only [List.append_assoc (textEvent _)] at hlater
    have hinner := ihInner [] hlater
    rw [← List.append_assoc inner.print, ← List.append_assoc (inner.eventsAfter [])] at hinner
    exact scans_markup (reads_opening start) pending hinner

/-! ### Nesting -/

/-- With these elements open, the end tags among the events name the elements they end. -/
def Nests (opened : List Text) (events : List Event) : Prop :=
  ∀ placed, placed.map Prod.snd = events → nest opened placed = (events, none)

theorem nests_nil (opened : List Text) : Nests opened [] := by
  intro placed hplaced
  rw [List.map_eq_nil_iff.1 hplaced]
  rfl

namespace Nests

variable {opened : List Text} {events : List Event}

theorem opening {tag : Tag} (h : Nests (tag.name :: opened) events) :
    Nests opened (.opening tag :: events) := by
  intro placed hplaced
  obtain ⟨⟨place, event⟩, others, rfl, rfl, hothers⟩ := List.map_eq_cons_iff.1 hplaced
  simp only [nest, h others hothers]

theorem closing {name : Text} (h : Nests opened events) :
    Nests (name :: opened) (.closing name :: events) := by
  intro placed hplaced
  obtain ⟨⟨place, event⟩, others, rfl, rfl, hothers⟩ := List.map_eq_cons_iff.1 hplaced
  simp only [nest, h others hothers, if_pos]

/-- Other events do not matter. -/
theorem other {event : Event} (h : Nests opened events) (hopening : ∀ tag, event ≠ .opening tag)
    (hclosing : ∀ name, event ≠ .closing name) : Nests opened (event :: events) := by
  intro placed hplaced
  obtain ⟨⟨place, event⟩, others, rfl, rfl, hothers⟩ := List.map_eq_cons_iff.1 hplaced
  cases event with
  | opening tag => exact absurd rfl (hopening tag)
  | closing name => exact absurd rfl (hclosing name)
  | empty tag | text raw | verbatim raw | aside => simp only [nest, h others hothers]

theorem rawEvent (h : Nests opened events) (raw : Text) :
    Nests opened (Xml.rawEvent raw ++ events) := by
  rw [Xml.rawEvent]
  split
  · exact h
  · exact h.other (fun _ => Event.noConfusion) (fun _ => Event.noConfusion)

theorem textEvent (h : Nests opened events) (pending : Text) :
    Nests opened (Xml.textEvent pending ++ events) := by
  rw [textEvent_eq]
  exact h.rawEvent (escape pending)

end Nests

theorem nests_eventsAfter (content : Content) (pending : Text) {opened : List Text}
    {events : List Event} (h : Nests opened events) :
    Nests opened (content.eventsAfter pending ++ events) := by
  induction content generalizing pending opened events with
  | nil => exact h.textEvent pending
  | text s later ih => exact ih (pending ++ s) h
  | verbatim s later ih | comment s later ih | instruction s later ih | empty s later ih =>
    rw [Content.eventsAfter, List.append_assoc]
    exact Nests.textEvent (.other (ih [] h) (by simp) (by simp)) pending
  | element start inner later ihInner ihLater =>
    rw [Content.eventsAfter, List.append_assoc, List.cons_append, List.append_assoc,
      List.cons_append]
    refine Nests.textEvent (.opening (ihInner [] ?_)) pending
    rw [start.name_tag]
    exact (ihLater [] h).closing

/-! ### Whole documents -/

theorem dropByteOrderMark_of_ne {c : Char} (hc : c ≠ '\uFEFF') (s : Text) :
    Text.dropByteOrderMark (c :: s) = c :: s := by
  rw [Text.dropByteOrderMark]
  intro tail h
  exact hc (List.cons.inj h).1

/-- Whether a byte order mark is dropped is decided by the text in front of the first markup. -/
theorem dropByteOrderMark_append {text : Text} (h : '<' ∉ text) :
    ∃ same : Text, '<' ∉ same ∧
      ∀ s, Text.dropByteOrderMark (text ++ '<' :: s) = same ++ '<' :: s := by
  cases text with
  | nil => exact ⟨[], h, fun s => dropByteOrderMark_of_ne (by decide) s⟩
  | cons c text =>
    by_cases hc : c = '\uFEFF'
    · refine ⟨text, fun hmem => h (List.mem_cons_of_mem c hmem), fun s => ?_⟩
      rw [hc]
      rfl
    · exact ⟨c :: text, h, fun s => dropByteOrderMark_of_ne hc (text ++ '<' :: s)⟩

/-- A mark in front of a document can only be the first character of a text in front of all
elements, so the document without it is the same tree with a shorter text. -/
theorem dropByteOrderMark_print (content : Content) :
    ∃ same : Content, same.elements = content.elements ∧
      Text.dropByteOrderMark content.print = same.print := by
  induction content with
  | text s later ih =>
    cases s with
    | nil =>
      obtain ⟨same, helements, hprint⟩ := ih
      exact ⟨same, helements, hprint⟩
    | cons c s =>
      by_cases hc : c = '\uFEFF'
      · refine ⟨.text s later, rfl, ?_⟩
        rw [hc]
        rfl
      · refine ⟨.text (c :: s) later, rfl, ?_⟩
        rw [Content.print, escape_cons]
        rcases escapeChar_cases c with ⟨name, -, h⟩ | ⟨-, h⟩
        · rw [h]
          exact dropByteOrderMark_of_ne (by decide) _
        · rw [h]
          exact dropByteOrderMark_of_ne hc _
  | nil => exact ⟨.nil, rfl, rfl⟩
  | verbatim s later => exact ⟨.verbatim s later, rfl, dropByteOrderMark_of_ne (by decide) _⟩
  | comment s later => exact ⟨.comment s later, rfl, dropByteOrderMark_of_ne (by decide) _⟩
  | instruction s later => exact ⟨.instruction s later, rfl, dropByteOrderMark_of_ne (by decide) _⟩
  | empty start later => exact ⟨.empty start later, rfl, dropByteOrderMark_of_ne (by decide) _⟩
  | element start inner later =>
    exact ⟨.element start inner later, rfl, dropByteOrderMark_of_ne (by decide) _⟩

/-- A document is read without a fault if both steps succeed. -/
theorem read_of_scans {document : Text} {events : List Event}
    (hscan : Scans (Text.dropByteOrderMark document) events) (hnest : Nests [] events) :
    read document = ⟨events, none⟩ := by
  obtain ⟨hevents, hfault⟩ := hscan 0
  rw [read]
  simp only [hnest _ hevents, hfault]
  rfl

/-- **A written tree is read as its events**, without a fault. A byte order mark is not part of the
tree, but no element knows. -/
theorem read_print (content : Content) :
    ∃ same : Content, same.elements = content.elements ∧
      read content.print = ⟨same.eventsAfter [], none⟩ := by
  obtain ⟨same, helements, hprint⟩ := dropByteOrderMark_print content
  refine ⟨same, helements, ?_⟩
  have hscan : Scans same.print (same.eventsAfter []) := by
    have hnone : ∀ pending, Scans (escape pending ++ []) (textEvent pending ++ []) := by
      intro pending
      rw [List.append_nil, List.append_nil]
      exact scans_text pending
    have hscan := scans_print same [] hnone
    rwa [List.append_nil, List.append_nil] at hscan
  have hnest : Nests [] (same.eventsAfter []) := by
    have hnest := nests_eventsAfter same [] (nests_nil [])
    rwa [List.append_nil] at hnest
  exact read_of_scans (hprint ▸ hscan) hnest

end Xml

end DoxTriage
