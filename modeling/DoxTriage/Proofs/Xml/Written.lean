import DoxTriage.Proofs.Xml.Reading
import Mathlib.Data.List.Basic

/-!
# Documents as they are written, and their beginnings

A document may be written in many ways: with any spaces in its tags, with either quote, with a
document type, with comments and instructions anywhere. What all of them have in common is that they
are pieces of markup with texts between them. `Written` is a document in this form, a flat sequence
of its markup, and it is well formed if its tags are balanced.

A beginning of such a document ends in one of two ways. It may break off within a piece of markup,
behind its angle bracket and before the other one. Then this piece cannot be read, and no other
piece helps. Or it ends within one of the texts, possibly an empty one, and then it is a document in
the same form, only with elements that are left open. Its reading has no fault: the reader compares
each end tag with the element begun last, but at the end it asks for none.

## Main definitions

* `Xml.Mark`, `Xml.Written`: a piece of markup, and a document in pieces.
* `Xml.Written.opened`: the elements that are left open, if the end tags name what they end.
* `Xml.Written.CutsMarkup`, `Xml.Written.CutsText`: the two ways to end before the end.

## Main results

* `Xml.Mark.reads`: each piece of markup is read as its event.
* `Xml.Written.cuts_of_prefix`: there are no other ways to end before the end.
* `Xml.Written.exists_fault_of_cutsMarkup`: within markup, a beginning has a fault.
* `Xml.Written.read_print`: a document is read without a fault, whatever it leaves open.
-/

namespace DoxTriage

namespace Xml

/-! ### Tags -/

/-- Every quote that opens is closed, and there is no angle bracket outside quotes. The quote that
is open is given. -/
def closesQuotes : Option Char → Text → Bool
  | quote, [] => quote.isNone
  | none, c :: s =>
    if c = '"' ∨ c = '\'' then closesQuotes (some c) s
    else c ≠ '<' && c ≠ '>' && closesQuotes none s
  | some q, c :: s => closesQuotes (if c = q then none else some q) s

theorem Kind.passes_of_closesQuotes {s : Text} {quote : Option Char}
    (h : closesQuotes quote s = true) : Kind.Passes quote s none := by
  induction s generalizing quote with
  | nil =>
    cases quote with
    | none => exact .nil none
    | some q => cases h
  | cons c s ih =>
    cases quote with
    | some q => exact .cons_quoted (ih h)
    | none =>
      rw [closesQuotes] at h
      by_cases hc : c = '"' ∨ c = '\''
      · rw [if_pos hc] at h
        refine .cons_unquoted (fun heq => ?_) ?_
        · rcases hc with rfl | rfl <;> cases heq
        · rw [if_pos hc]
          exact ih h
      · rw [if_neg hc, Bool.and_eq_true, Bool.and_eq_true, decide_eq_true_eq,
          decide_eq_true_eq] at h
        refine .cons_unquoted h.1.2 ?_
        rw [if_neg hc]
        exact ih h.2

/-- A tag that begins an element, or is an empty one, in any spelling: a name and what follows it up
to the angle bracket or the slash before it. -/
structure WrittenTag where
  name : Name
  rest : Text
  apart : rest.head?.all isSpace = true
  closed : closesQuotes none rest = true
  getLast?_ne : rest.getLast? ≠ some '/'

namespace WrittenTag

variable (written : WrittenTag)

def text : Text :=
  written.name.text ++ written.rest

def tag : Tag :=
  ⟨written.text⟩

theorem name_tag : written.tag.name = written.name.text := by
  have hname : ∀ c ∈ written.name.text, (! isSpace c) = true := fun c hc => by
    rw [isSpace_of_isNamePart (written.name.isNamePart_of_mem c hc), Bool.not_false]
  rw [Tag.name, tag, text, List.takeWhile_append_of_pos hname]
  rcases hrest : written.rest with _ | ⟨c, s⟩
  · exact List.append_nil _
  · have hc := written.apart
    rw [hrest, List.head?_cons, Option.all_some] at hc
    rw [List.takeWhile_cons_of_neg (by simp [hc]), List.append_nil]

theorem passes : Kind.Passes none written.text none :=
  (Start.passes_name written.name).append (Kind.passes_of_closesQuotes written.closed)

theorem exists_text_eq_cons : ∃ c s, written.text = c :: s ∧ isNamePart c = true := by
  obtain ⟨c, s, hname, hc, -⟩ := written.name.exists_cons
  refine ⟨c, s ++ written.rest, ?_, hc⟩
  rw [text, hname, List.cons_append]

theorem getLast?_text_ne : written.text.getLast? ≠ some '/' := by
  rw [text]
  by_cases hrest : written.rest = []
  · rw [hrest, List.append_nil]
    intro hlast
    have hpart := written.name.isNamePart_of_mem _ (List.mem_of_getLast? hlast)
    exact absurd hpart (by decide)
  · rw [List.getLast?_append_of_ne_nil _ hrest]
    exact written.getLast?_ne

end WrittenTag

/-! ### Document types -/

/-- Every angle bracket that opens is closed; `depth` of them are open. -/
def balanced : Nat → Text → Bool
  | depth, [] => depth = 0
  | depth, c :: s =>
    if c = '<' then balanced (depth + 1) s
    else if c = '>' then 0 < depth && balanced (depth - 1) s
    else balanced depth s

theorem Kind.cutBalanced?_of_balanced {s : Text} {depth : Nat} (h : balanced depth s = true)
    (rest : Text) : cutBalanced? depth (s ++ '>' :: rest) = some (s, rest) := by
  induction s generalizing depth with
  | nil =>
    rw [balanced, decide_eq_true_eq] at h
    rw [List.nil_append, cutBalanced?, if_pos ⟨h, rfl⟩]
  | cons c s ih =>
    have hgo : ∀ after, balanced after s = true →
        (cutBalanced? after (s ++ '>' :: rest)).map (fun cut => (c :: cut.1, cut.2)) =
          some (c :: s, rest) := by
      intro after hafter
      rw [ih hafter]
      rfl
    rw [balanced] at h
    rw [List.cons_append, cutBalanced?]
    by_cases hopens : c = '<'
    · subst hopens
      rw [if_pos rfl] at h
      rw [if_neg fun hend => absurd hend.2 (by decide)]
      exact hgo _ h
    · rw [if_neg hopens] at h
      by_cases hcloses : c = '>'
      · subst hcloses
        rw [if_pos rfl, Bool.and_eq_true, decide_eq_true_eq] at h
        rw [if_neg fun hend => Nat.ne_of_gt h.1 hend.1]
        exact hgo _ h.2
      · rw [if_neg hcloses] at h
        rw [if_neg fun hend => hcloses hend.2]
        simp only [if_neg hopens, if_neg hcloses]
        exact hgo _ h

/-- What follows the word of a document type, with markup of its own in it. -/
structure DocType where
  text : Text
  text_balanced : balanced 0 text = true
  not_all_isSpace : text.all isSpace = false

theorem reads_docType (docType : DocType) :
    Reads ("!DOCTYPE".toList ++ docType.text) .aside := by
  have hkind : ∀ rest, Kind.of ("!DOCTYPE".toList ++ docType.text ++ rest) = .ok .docType :=
    fun _ => rfl
  refine reads_of_cut? hkind (fun rest => ?_) ?_
  · have hbalanced : balanced 0 ("!DOCTYPE".toList ++ docType.text) = true := docType.text_balanced
    exact Kind.cutBalanced?_of_balanced hbalanced rest
  · have htake : ("!DOCTYPE".toList ++ docType.text).take 8 = "!DOCTYPE".toList := rfl
    have hdrop : ("!DOCTYPE".toList ++ docType.text).drop 8 = docType.text := rfl
    rw [Kind.event, htake, hdrop, if_pos (by decide), docType.not_all_isSpace]
    rfl

/-! ### Markup -/

/-- A piece of markup, in any spelling. -/
inductive Mark where
  | opening (written : WrittenTag)
  | empty (written : WrittenTag)
  | closing (name : Name) (gap : Text) (isSpace_of_mem : ∀ c ∈ gap, isSpace c = true)
  | verbatim (s : Verbatim)
  | comment (s : Comment)
  | instruction (s : Instruction)
  | docType (s : DocType)

namespace Mark

/-- What is written between the angle brackets. -/
def body : Mark → Text
  | opening written => written.text
  | empty written => written.text ++ ['/']
  | closing name gap _ => '/' :: name.text ++ gap
  | verbatim s => "![CDATA[".toList ++ s.text ++ [']', ']']
  | comment s => "!--".toList ++ s.text ++ ['-', '-']
  | instruction s => '?' :: s.text ++ ['?']
  | docType s => "!DOCTYPE".toList ++ s.text

/-- What the reader makes of it. -/
def event : Mark → Event
  | opening written => .opening written.tag
  | empty written => .empty written.tag
  | closing name _ _ => .closing name.text
  | verbatim s => .verbatim s.text
  | comment _ | instruction _ | docType _ => .aside

/-- **Each piece of markup is read as its event.** -/
theorem reads (mark : Mark) : Reads mark.body mark.event := by
  cases mark with
  | opening written =>
    obtain ⟨c, s, htext, hc⟩ := written.exists_text_eq_cons
    exact reads_opening_of_passes written.passes htext hc written.getLast?_text_ne
  | empty written =>
    obtain ⟨c, s, htext, hc⟩ := written.exists_text_eq_cons
    exact reads_empty_of_passes written.passes htext hc
  | closing name gap hgap => exact reads_closing_gap name hgap
  | verbatim s => exact reads_verbatim s
  | comment s => exact reads_comment s
  | instruction s => exact reads_instruction s
  | docType s => exact reads_docType s

/-- The elements that are open after a piece of markup, the last one first. An end tag has to name
the last one. -/
def nest (opened : List Text) : Mark → Option (List Text)
  | opening written => some (written.name.text :: opened)
  | closing name _ _ => if opened.head? = some name.text then some opened.tail else none
  | empty _ | verbatim _ | comment _ | instruction _ | docType _ => some opened

/-- A piece of markup that is in its place may stand in front of events that are. -/
theorem nests_cons {mark : Mark} {opened after : List Text} {events : List Event}
    (h : mark.nest opened = some after) (hevents : Nests after events) :
    Nests opened (mark.event :: events) := by
  cases mark with
  | opening written =>
    cases h
    refine .opening ?_
    rwa [written.name_tag]
  | closing name gap hgap =>
    rw [nest] at h
    split at h
    · next hhead =>
      cases h
      obtain ⟨others, rfl⟩ := List.head?_eq_some_iff.1 hhead
      exact .closing hevents
    · cases h
  | empty s | verbatim s | comment s | instruction s | docType s =>
    cases h
    exact hevents.other (fun _ => Event.noConfusion) (fun _ => Event.noConfusion)

end Mark

/-! ### Documents -/

/-- A text between two pieces of markup. -/
structure RawText where
  text : Text
  not_mem : '<' ∉ text

/-- A piece of markup with the text in front of it. -/
structure Item where
  front : RawText
  mark : Mark

/-- A document: pieces of markup with texts between them, and the text at the end. -/
structure Written where
  items : List Item
  back : RawText

/-- Pieces of markup and texts in front of something. -/
def Item.printAll (items : List Item) (rest : Text) : Text :=
  items.foldr (fun item rest => item.front.text ++ markup item.mark.body rest) rest

/-- The events of pieces of markup and texts in front of other events. -/
def Item.eventsAll (items : List Item) (events : List Event) : List Event :=
  items.foldr (fun item events => rawEvent item.front.text ++ item.mark.event :: events) events

theorem count_rawEvent (raw name : Text) : (rawEvent raw).count (.closing name) = 0 := by
  rw [rawEvent]
  split <;> rfl

namespace Item

theorem printAll_cons (item : Item) (items : List Item) (rest : Text) :
    printAll (item :: items) rest =
      item.front.text ++ '<' :: (item.mark.body ++ '>' :: printAll items rest) := rfl

theorem eventsAll_cons (item : Item) (items : List Item) (events : List Event) :
    eventsAll (item :: items) events =
      rawEvent item.front.text ++ item.mark.event :: eventsAll items events := rfl

theorem eventsAll_append (items others : List Item) (events : List Event) :
    eventsAll (items ++ others) events = eventsAll items (eventsAll others events) :=
  List.foldr_append

theorem eventsAll_eq (items : List Item) (events : List Event) :
    eventsAll items events = eventsAll items [] ++ events := by
  induction items with
  | nil => rfl
  | cons item items ih =>
    rw [eventsAll_cons, eventsAll_cons, ih, List.append_assoc, List.cons_append]

/-- End tags are pieces of markup, so texts do not count. -/
theorem count_eventsAll (items : List Item) (events : List Event) (name : Text) :
    (eventsAll items events).count (.closing name) =
      (items.map fun item => item.mark.event).count (.closing name) +
        events.count (.closing name) := by
  induction items with
  | nil => exact (Nat.zero_add _).symm
  | cons item items ih =>
    rw [eventsAll_cons, List.count_append, count_rawEvent, List.map_cons, List.count_cons,
      List.count_cons, ih]
    omega

/-- A byte order mark is part of the text in front of the first piece of markup. -/
theorem dropByteOrderMark_printAll (item : Item) (items : List Item) (rest : Text) :
    ∃ same : RawText, Text.dropByteOrderMark (printAll (item :: items) rest) =
      printAll (⟨same, item.mark⟩ :: items) rest := by
  obtain ⟨same, hsame, hdrop⟩ := dropByteOrderMark_append item.front.not_mem
  refine ⟨⟨same, hsame⟩, ?_⟩
  rw [printAll_cons, printAll_cons, hdrop]

end Item

namespace Written

/-- The document as it is written. -/
def print (document : Written) : Text :=
  Item.printAll document.items document.back.text

/-- What the reader makes of the document. -/
def events (document : Written) : List Event :=
  Item.eventsAll document.items (rawEvent document.back.text)

/-- The elements that the document leaves open, the last one first. There is no answer if an end tag
does not name the element begun last. -/
def opened (document : Written) : Option (List Text) :=
  (document.items.map Item.mark).foldlM Mark.nest []

/-- The tags of the document are balanced. -/
def WellFormed (document : Written) : Prop :=
  document.opened = some []

variable {document part : Written} {later : List Item} {cut : Text}

/-! ### Beginnings of documents -/

/-- The text breaks off within a piece of markup of the document. -/
def CutsMarkup (document : Written) (cut : Text) : Prop :=
  ∃ done item later begun, document.items = done ++ item :: later ∧ begun <+: item.mark.body ∧
    cut = Item.printAll done (item.front.text ++ '<' :: begun)

/-- The first document ends within a text of the other one, with these pieces of markup missing. -/
structure CutsText (part document : Written) (later : List Item) : Prop where
  items_eq : document.items = part.items ++ later
  back_prefix : part.back.text <+: (later.head?.elim document.back Item.front).text

theorem CutsMarkup.cons {items : List Item} {back : RawText} (item : Item)
    (h : CutsMarkup ⟨items, back⟩ cut) :
    CutsMarkup ⟨item :: items, back⟩ (item.front.text ++ markup item.mark.body cut) := by
  obtain ⟨done, broken, later, begun, rfl, hbegun, rfl⟩ := h
  exact ⟨item :: done, broken, later, begun, rfl, hbegun, rfl⟩

theorem CutsText.cons {items : List Item} {back : RawText} (item : Item)
    (h : CutsText part ⟨items, back⟩ later) :
    CutsText ⟨item :: part.items, part.back⟩ ⟨item :: items, back⟩ later :=
  ⟨congrArg (item :: ·) h.items_eq, h.back_prefix⟩

/-- A beginning of a piece of markup and what follows it ends before the markup, within it or
behind it. -/
theorem prefix_markup {s body rest : Text} (h : s <+: markup body rest) :
    s = [] ∨ (∃ begun, begun <+: body ∧ s = '<' :: begun) ∨
      ∃ t, t <+: rest ∧ s = markup body t := by
  rw [markup_eq] at h
  rcases List.prefix_cons_iff.1 h with rfl | ⟨begun, rfl, hbegun⟩
  · exact .inl rfl
  rcases List.prefix_or_prefix_of_prefix hbegun (List.prefix_append _ _) with hbody | ⟨t, rfl⟩
  · exact .inr (.inl ⟨begun, hbody, rfl⟩)
  rw [List.prefix_append_right_inj] at hbegun
  rcases List.prefix_cons_iff.1 hbegun with rfl | ⟨t, rfl, ht⟩
  · exact .inr (.inl ⟨body, List.prefix_rfl, by rw [List.append_nil]⟩)
  · exact .inr (.inr ⟨t, ht, (markup_eq body t).symm⟩)

/-- A beginning of a document ends within its markup or within a text. The induction is on the
markup, and each step goes through a text and a piece of markup behind it. -/
theorem cuts_of_prefix (h : cut <+: document.print) :
    document.CutsMarkup cut ∨ ∃ part later, CutsText part document later ∧ cut = part.print := by
  obtain ⟨items, back⟩ := document
  induction items generalizing cut with
  | nil =>
    have hback : cut <+: back.text := h
    refine .inr ⟨⟨[], cut, fun hmem => back.not_mem (hback.subset hmem)⟩, [], ⟨rfl, hback⟩, rfl⟩
  | cons item items ih =>
    have hprint : (Written.mk (item :: items) back).print =
        item.front.text ++ markup item.mark.body (Written.mk items back).print := rfl
    rw [hprint] at h
    rcases List.prefix_or_prefix_of_prefix h (List.prefix_append _ _) with hfront | ⟨s, rfl⟩
    · refine .inr ⟨⟨[], cut, fun hmem => item.front.not_mem (hfront.subset hmem)⟩, item :: items,
        ⟨rfl, hfront⟩, rfl⟩
    · rw [List.prefix_append_right_inj] at h
      rcases prefix_markup h with rfl | ⟨begun, hbegun, rfl⟩ | ⟨t, ht, rfl⟩
      · exact .inr ⟨⟨[], item.front⟩, item :: items, ⟨rfl, List.prefix_rfl⟩, List.append_nil _⟩
      · exact .inl ⟨[], item, items, begun, rfl, hbegun, rfl⟩
      · rcases ih ht with hmarkup | ⟨part, later, htext, rfl⟩
        · exact .inl (hmarkup.cons item)
        · exact .inr ⟨_, later, htext.cons item, rfl⟩

/-! ### Reading a beginning -/

/-- A text that breaks off within a piece of markup cannot be cut into events without a fault. -/
theorem scan_ne_none (items : List Item) {raw begun : Text} (hraw : '<' ∉ raw)
    {fault : Nat × MarkupFault} (h : readMarkup begun = .error fault) (place : Nat) :
    (scan place (Item.printAll items (raw ++ '<' :: begun))).2 ≠ none := by
  induction items generalizing place with
  | nil =>
    obtain ⟨start, hscan⟩ := scan_fault hraw h place
    have hprint : Item.printAll [] (raw ++ '<' :: begun) = raw ++ '<' :: begun := rfl
    rw [hprint, hscan]
    exact Option.some_ne_none _
  | cons item items ih =>
    obtain ⟨size, hsize⟩ := item.mark.reads (Item.printAll items (raw ++ '<' :: begun))
    obtain ⟨start, next, hscan⟩ := scan_markup item.front.not_mem hsize place
    rw [Item.printAll_cons, hscan]
    exact ih next

/-- **Within markup, a beginning has a fault.** -/
theorem exists_fault_of_cutsMarkup (h : document.CutsMarkup cut) :
    ∃ fault, (read cut).fault = some fault := by
  obtain ⟨done, item, later, begun, -, hbegun, rfl⟩ := h
  obtain ⟨fault, hfault⟩ := readMarkup_of_prefix item.mark.reads hbegun
  have hscan : (scan 0 (Text.dropByteOrderMark
      (Item.printAll done (item.front.text ++ '<' :: begun)))).2 ≠ none := by
    cases done with
    | nil =>
      obtain ⟨same, hsame, hdrop⟩ := dropByteOrderMark_append item.front.not_mem
      have hprint : Item.printAll [] (item.front.text ++ '<' :: begun) =
          item.front.text ++ '<' :: begun := rfl
      rw [hprint, hdrop]
      exact scan_ne_none [] hsame hfault 0
    | cons first done =>
      obtain ⟨same, hdrop⟩ := Item.dropByteOrderMark_printAll first done
        (item.front.text ++ '<' :: begun)
      rw [hdrop]
      exact scan_ne_none _ item.front.not_mem hfault 0
  obtain ⟨found, hfound⟩ := Option.ne_none_iff_exists'.1 hscan
  rw [read, hfound]
  -- a fault in the nesting comes first, but it is a fault as well
  generalize (nest [] _).2 = nested
  cases nested <;> exact ⟨_, rfl⟩

theorem scans_printAll (items : List Item) {s : Text} {events : List Event} (h : Scans s events) :
    Scans (Item.printAll items s) (Item.eventsAll items events) := by
  induction items with
  | nil => exact h
  | cons item items ih => exact scans_piece item.front.not_mem item.mark.reads ih

theorem nests_eventsAll (items : List Item) {before after : List Text}
    (h : (items.map Item.mark).foldlM Mark.nest before = some after) {events : List Event}
    (hevents : Nests after events) : Nests before (Item.eventsAll items events) := by
  induction items generalizing before with
  | nil =>
    cases h
    exact hevents
  | cons item items ih =>
    rw [List.map_cons, List.foldlM_cons, Option.bind_eq_bind, Option.bind_eq_some_iff] at h
    obtain ⟨next, hnext, hlater⟩ := h
    exact (Mark.nests_cons hnext (ih hlater)).rawEvent item.front.text

/-- **A document is read without a fault, whatever it leaves open.** What is read are its events,
up to a byte order mark in the text in front. -/
theorem read_print {elements : List Text} (h : document.opened = some elements) :
    ∃ raw same events, document.events = rawEvent raw ++ events ∧
      read document.print = ⟨rawEvent same ++ events, none⟩ := by
  obtain ⟨items, back⟩ := document
  cases items with
  | nil =>
    have hback : '<' ∉ Text.dropByteOrderMark back.text := by
      rw [Text.dropByteOrderMark.eq_def]
      split
      · next s hs => exact fun hmem => back.not_mem (hs ▸ List.mem_cons_of_mem _ hmem)
      · exact back.not_mem
    refine ⟨back.text, Text.dropByteOrderMark back.text, [], (List.append_nil _).symm, ?_⟩
    rw [List.append_nil]
    refine read_of_scans (scans_raw hback) ?_
    have hnests := (nests_nil []).rawEvent (Text.dropByteOrderMark back.text)
    rwa [List.append_nil] at hnests
  | cons item items =>
    obtain ⟨same, hdrop⟩ := Item.dropByteOrderMark_printAll item items back.text
    have hscans : Scans (Item.printAll (⟨same, item.mark⟩ :: items) back.text)
        (Item.eventsAll (⟨same, item.mark⟩ :: items) (rawEvent back.text)) :=
      scans_printAll _ (scans_raw back.not_mem)
    have hnests : Nests [] (Item.eventsAll (⟨same, item.mark⟩ :: items) (rawEvent back.text)) := by
      have hlast := (nests_nil elements).rawEvent back.text
      rw [List.append_nil] at hlast
      exact nests_eventsAll (⟨same, item.mark⟩ :: items) h hlast
    refine ⟨item.front.text, same.text, _, rfl, read_of_scans ?_ hnests⟩
    rw [print, hdrop]
    exact hscans

/-- A document that ends earlier leaves some elements open. -/
theorem CutsText.exists_opened (h : CutsText part document later) {elements : List Text}
    (hopened : document.opened = some elements) : ∃ others, part.opened = some others := by
  rw [opened, h.items_eq, List.map_append, List.foldlM_append, Option.bind_eq_bind,
    Option.bind_eq_some_iff] at hopened
  obtain ⟨others, hothers, -⟩ := hopened
  exact ⟨others, hothers⟩

/-- The events after those of an earlier end begin with the text that it breaks off in. -/
theorem CutsText.exists_events (h : CutsText part document later) :
    document.events = Item.eventsAll part.items [] ++
        Item.eventsAll later (rawEvent document.back.text) ∧
      ∃ raw events, part.back.text <+: raw ∧
        Item.eventsAll later (rawEvent document.back.text) = rawEvent raw ++ events := by
  refine ⟨?_, ?_⟩
  · rw [events, h.items_eq, Item.eventsAll_append, Item.eventsAll_eq]
  · have hprefix := h.back_prefix
    cases later with
    | nil => exact ⟨document.back.text, [], hprefix, (List.append_nil _).symm⟩
    | cons item later => exact ⟨item.front.text, _, hprefix, rfl⟩

end Written

end Xml

end DoxTriage
