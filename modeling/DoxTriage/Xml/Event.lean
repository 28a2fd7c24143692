import DoxTriage.Xml.Fault

/-!
# Events of an XML document

A document is read as a sequence of events, without building a tree: an element begins, an element
ends, a text stands between two tags. What a reader of documents can pass over (comments,
instructions, the document type) is an event too, because it ends the text before it.

The reading is in three steps, each a function on what the step before produced.

1. *Cutting.* What follows a `<` decides which kind of markup begins (`Kind.of`), and each kind has
   its own way to find its `>` (`Kind.cut?`): a tag skips quoted text, a document type skips nested
   markup, a comment wants two hyphens in front of it.
2. *Naming.* What was cut becomes an event, if it is what its first characters promised
   (`Kind.event`).
3. *Nesting.* Each end tag has to name the element that was begun last (`nest`). A document may end
   while elements are open.

A step that fails ends the sequence, and what was read before the fault stands. `Reading` therefore
holds both: the events and, possibly, a fault after the last of them.

## Main definitions

* `Xml.Tag`, `Xml.Event`: what a document is made of.
* `Xml.Kind.cut?`, `Xml.Kind.event`: the two steps on one piece of markup.
* `Xml.scan`, `Xml.nest`: the two steps on a whole document.
* `Xml.read`: the events of a document.

## Main results

* `Xml.Kind.eq_of_cut?`: cutting loses nothing but the `>`.
-/

namespace DoxTriage

namespace Xml

/-- The spaces of XML. -/
def isSpace (c : Char) : Bool :=
  c = ' ' || c = '\t' || c = '\r' || c = '\n'

/-- What stands between `<` and `>` in a tag that begins an element, the slash of an empty element
excluded. -/
structure Tag where
  content : Text
  deriving DecidableEq, Repr

/-- The name of an element is everything up to the first space. It may be empty. -/
def Tag.name (tag : Tag) : Text :=
  tag.content.takeWhile (! isSpace ·)

/-- What a document is made of. -/
inductive Event where
  | opening (tag : Tag)
  | empty (tag : Tag)
  | closing (name : Text)
  | text (raw : Text)
  | verbatim (raw : Text)
  | aside
  deriving DecidableEq, Repr

/-! ### Kinds of markup -/

/-- The kinds of markup, by how they begin. -/
inductive Kind where
  | tag
  | comment
  | verbatim
  | docType
  | instruction
  deriving DecidableEq, Repr

namespace Kind

/-- The kind of markup that begins, from what follows the `<`. -/
def of : Text → Except MarkupFault Kind
  | [] => .error .unclosedTag
  | '?' :: _ => .ok .instruction
  | '!' :: '[' :: _ => .ok .verbatim
  | '!' :: '-' :: _ => .ok .comment
  | '!' :: c :: _ => if c = 'D' ∨ c = 'd' then .ok .docType else .error .unknownMarkup
  | ['!'] => .error .unknownMarkup
  | _ :: _ => .ok .tag

/-- What is wrong when the end of a piece of markup is missing, or not what it should be. -/
def unclosed : Kind → MarkupFault
  | .tag => .unclosedTag
  | .comment => .unclosedComment
  | .verbatim => .unclosedVerbatim
  | .docType => .unclosedDocType
  | .instruction => .unclosedInstruction

/-- Cut at the first `>` outside quotes; `quote` is the quote that is open. -/
def cutTag? (quote : Option Char) : Text → Option (Text × Text)
  | [] => none
  | c :: s =>
    if quote = none ∧ c = '>' then some ([], s)
    else
      let after :=
        match quote with
        | none => if c = '"' ∨ c = '\'' then some c else none
        | some q => if c = q then none else some q
      (cutTag? after s).map fun cut => (c :: cut.1, cut.2)

/-- Cut at the first `>` that closes every `<` before it; `depth` of them are open. -/
def cutBalanced? (depth : Nat) : Text → Option (Text × Text)
  | [] => none
  | c :: s =>
    if depth = 0 ∧ c = '>' then some ([], s)
    else
      let after := if c = '<' then depth + 1 else if c = '>' then depth - 1 else depth
      (cutBalanced? after s).map fun cut => (c :: cut.1, cut.2)

/-- Cut at the first `>` where `closes` accepts what stands before it, which it is given backwards;
`seen` has been passed already. -/
def cutWhere? (closes : Text → Bool) (seen : Text) : Text → Option (Text × Text)
  | [] => none
  | c :: s =>
    if c = '>' ∧ closes seen then some ([], s)
    else (cutWhere? closes (c :: seen) s).map fun cut => (c :: cut.1, cut.2)

/-- Cut a piece of markup at its `>`. A comment is at least as long as `!----`, so that its two
ends do not share a hyphen. -/
def cut? : Kind → Text → Option (Text × Text)
  | .tag => cutTag? none
  | .comment => cutWhere? (fun seen => 4 < seen.length && ['-', '-'].isPrefixOf seen) []
  | .verbatim => cutWhere? (fun seen => [']', ']'].isPrefixOf seen) []
  | .docType => cutBalanced? 0
  | .instruction => cutWhere? (fun seen => ['?'].isPrefixOf seen) []

theorem eq_of_cutTag? {quote : Option Char} {s content rest : Text}
    (h : cutTag? quote s = some (content, rest)) : s = content ++ '>' :: rest := by
  induction s generalizing quote content with
  | nil => cases h
  | cons c s ih =>
    unfold cutTag? at h
    split at h
    · next hc => cases h; rw [hc.2]; rfl
    · obtain ⟨cut, hcut, e⟩ := Option.map_eq_some_iff.1 h
      cases e
      rw [ih hcut]; rfl

theorem eq_of_cutBalanced? {depth : Nat} {s content rest : Text}
    (h : cutBalanced? depth s = some (content, rest)) : s = content ++ '>' :: rest := by
  induction s generalizing depth content with
  | nil => cases h
  | cons c s ih =>
    unfold cutBalanced? at h
    split at h
    · next hc => cases h; rw [hc.2]; rfl
    · obtain ⟨cut, hcut, e⟩ := Option.map_eq_some_iff.1 h
      cases e
      rw [ih hcut]; rfl

theorem eq_of_cutWhere? {closes : Text → Bool} {seen s content rest : Text}
    (h : cutWhere? closes seen s = some (content, rest)) : s = content ++ '>' :: rest := by
  induction s generalizing seen content with
  | nil => cases h
  | cons c s ih =>
    unfold cutWhere? at h
    split at h
    · next hc => cases h; rw [hc.1]; rfl
    · obtain ⟨cut, hcut, e⟩ := Option.map_eq_some_iff.1 h
      cases e
      rw [ih hcut]; rfl

/-- Cutting loses nothing but the `>`. -/
theorem eq_of_cut? {kind : Kind} {s content rest : Text}
    (h : kind.cut? s = some (content, rest)) : s = content ++ '>' :: rest := by
  cases kind with
  | tag => exact eq_of_cutTag? h
  | comment | verbatim | instruction => exact eq_of_cutWhere? h
  | docType => exact eq_of_cutBalanced? h

/-- The event of an end tag, from what follows the slash. Spaces after the name are dropped, unless
there is nothing else. -/
def endEvent (content : Text) : Event :=
  if content.all isSpace then .closing content
  else .closing (content.reverse.dropWhile isSpace).reverse

/-- The event of a tag. -/
def tagEvent (content : Text) : Event :=
  if content.head? = some '/' then endEvent content.tail
  else if content.getLast? = some '/' then .empty ⟨content.dropLast⟩
  else .opening ⟨content⟩

/-- The event that a piece of markup is. A fault comes with its place in bytes after the `<`. -/
def event (kind : Kind) (content : Text) : Except (Nat × MarkupFault) Event :=
  match kind with
  | .tag => .ok (tagEvent content)
  | .comment =>
    if "!--".toList.isPrefixOf content then .ok .aside else .error (0, kind.unclosed)
  | .verbatim =>
    if "![CDATA[".toList.isPrefixOf content then
      .ok (.verbatim (content.drop 8).dropLast.dropLast)
    else .error (0, kind.unclosed)
  | .docType =>
    if (content.take 8).map Char.toUpper = "!DOCTYPE".toList then
      if (content.drop 8).all isSpace then .error (Text.utf8Length content + 1, .namelessDocType)
      else .ok .aside
    else .error (0, kind.unclosed)
  | .instruction => if 1 < content.length then .ok .aside else .error (0, kind.unclosed)

end Kind

/-! ### Whole documents -/

/-- One piece of markup: its event, its length in bytes with both angle brackets, and what follows
it. The argument is what follows the `<`; a fault comes with its place in bytes after the `<`. -/
def readMarkup (s : Text) : Except (Nat × MarkupFault) (Event × Nat × Text) :=
  match Kind.of s with
  | .error fault => .error (0, fault)
  | .ok kind =>
    match kind.cut? s with
    | none => .error (0, kind.unclosed)
    | some (content, rest) =>
      match kind.event content with
      | .error fault => .error fault
      | .ok event => .ok (event, Text.utf8Length content + 2, rest)

theorem length_of_readMarkup {s rest : Text} {event : Event} {size : Nat}
    (h : readMarkup s = .ok (event, size, rest)) : rest.length < s.length := by
  rw [readMarkup] at h
  split at h
  · cases h
  · split at h
    · cases h
    · next hcut =>
      split at h
      · cases h
      · cases h
        rw [Kind.eq_of_cut? hcut]
        simp only [List.length_append, List.length_cons]
        omega

/-- The event of a text, if there is any text. -/
def textEvents (place : Nat) (text : Text) : List (Nat × Event) :=
  if text = [] then [] else [(place, .text text)]

theorem length_lt_of_scan {s markup rest : Text} {c : Char} {event : Event} {size : Nat}
    (hs : s.dropWhile (· ≠ '<') = c :: markup) (hm : readMarkup markup = .ok (event, size, rest)) :
    rest.length < s.length := by
  have hrest := length_of_readMarkup hm
  have hdrop : (s.dropWhile (· ≠ '<')).length ≤ s.length :=
    (List.dropWhile_suffix _).sublist.length_le
  rw [hs, List.length_cons] at hdrop
  omega

/-- The events of a document from byte `place` on, each with its place, and the fault that ended
them. -/
def scan (place : Nat) (s : Text) : List (Nat × Event) × Option (Nat × MarkupFault) :=
  let text := s.takeWhile (· ≠ '<')
  let start := place + Text.utf8Length text
  match hs : s.dropWhile (· ≠ '<') with
  | [] => (textEvents place text, none)
  | _ :: markup =>
    match hm : readMarkup markup with
    | .error (offset, fault) => (textEvents place text, some (start + offset, fault))
    | .ok (event, size, rest) =>
      have := length_lt_of_scan hs hm
      let later := scan (start + size) rest
      (textEvents place text ++ (start, event) :: later.1, later.2)
termination_by s.length

/-- The events up to the first end tag that does not name the element begun last, and the fault
that such an end tag is. The names of the open elements are given, the last one first. -/
def nest (opened : List Text) : List (Nat × Event) → List Event × Option (Nat × MarkupFault)
  | [] => ([], none)
  | (place, event) :: events =>
    let go := fun (opened : List Text) =>
      let later := nest opened events
      (event :: later.1, later.2)
    match event, opened with
    | .opening tag, _ => go (tag.name :: opened)
    | .closing name, [] => ([], some (place, .unmatchedEnd name))
    | .closing name, last :: others =>
      if name = last then go others else ([], some (place, .mismatchedEnd last name))
    | _, _ => go opened

/-- What was read of a document: events, and a fault if reading ended with one. -/
structure Reading where
  events : List Event
  fault : Option Fault
  deriving DecidableEq

/-- The events of a document. A byte order mark in front is not part of it. -/
def read (document : Text) : Reading :=
  let scanned := scan 0 (Text.dropByteOrderMark document)
  let nested := nest [] scanned.1
  { events := nested.1
    fault := (nested.2 <|> scanned.2).map fun fault => .inMarkup fault.1 fault.2 }

end Xml

end DoxTriage
