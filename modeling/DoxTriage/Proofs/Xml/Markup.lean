import DoxTriage.Proofs.Xml.Attribute

/-!
# Written markup is cut where it ends

Each kind of markup finds its end in its own way, and written markup has to be found whole by the
way of its kind. For a tag the argument is a run of the quoting state (`Passes`): a name and an
attribute leave it unquoted, and only an unquoted `>` ends a tag. For the others it is about what
stands in front of a `>`: inside the piece it is never the closing mark, because the text of the
piece does not contain the mark and the mark cannot begin before the text.

## Main definitions

* `Xml.Kind.Passes`: a text takes the search for the end of a tag from one state to another.
* `Xml.Kind.GoesThrough`: a cut that looks no further than to its end.
* `Xml.Reads`: what is written between angle brackets is read as an event, in front of anything.

## Main results

* `Xml.reads_opening`, `Xml.reads_empty`, `Xml.reads_closing`, `Xml.reads_verbatim`,
  `Xml.reads_comment`, `Xml.reads_instruction`: each kind of written markup is read back.
* `Xml.readMarkup_of_prefix`: markup that breaks off cannot be read.
-/

namespace DoxTriage

namespace Xml

namespace Kind

/-! ### Tags -/

theorem cutTag?_unquoted (c : Char) (s : Text) :
    cutTag? none (c :: s) =
      if c = '>' then some ([], s)
      else (cutTag? (if c = '"' ∨ c = '\'' then some c else none) s).map
        fun cut => (c :: cut.1, cut.2) := by
  simp [cutTag?]

theorem cutTag?_quoted (q c : Char) (s : Text) :
    cutTag? (some q) (c :: s) =
      (cutTag? (if c = q then none else some q) s).map fun cut => (c :: cut.1, cut.2) := by
  simp [cutTag?]

/-- Searching for the end of a tag, one passes over a text, from one state of quotes to another. -/
def Passes (quote : Option Char) (s : Text) (after : Option Char) : Prop :=
  ∀ rest, cutTag? quote (s ++ rest) = (cutTag? after rest).map fun cut => (s ++ cut.1, cut.2)

namespace Passes

variable {quote middle after : Option Char} {s t : Text}

theorem nil (quote : Option Char) : Passes quote [] quote := by
  intro rest
  simp

theorem append (hs : Passes quote s middle) (ht : Passes middle t after) :
    Passes quote (s ++ t) after := by
  intro rest
  rw [List.append_assoc, hs, ht, Option.map_map]
  simp [Function.comp_def]

theorem cons_unquoted {c : Char} (hc : c ≠ '>')
    (hs : Passes (if c = '"' ∨ c = '\'' then some c else none) s after) :
    Passes none (c :: s) after := by
  intro rest
  rw [List.cons_append, cutTag?_unquoted, if_neg hc, hs rest, Option.map_map]
  rfl

theorem cons_quoted {q c : Char} (hs : Passes (if c = q then none else some q) s after) :
    Passes (some q) (c :: s) after := by
  intro rest
  rw [List.cons_append, cutTag?_quoted, hs rest, Option.map_map]
  rfl

/-- Outside quotes, a text without quotes and without `>` is passed over. -/
theorem plain (h : ∀ c ∈ s, c ≠ '>' ∧ c ≠ '"' ∧ c ≠ '\'') : Passes none s none := by
  induction s with
  | nil => exact nil none
  | cons c s ih =>
    obtain ⟨⟨hend, hquote, hapostrophe⟩, hs⟩ := List.forall_mem_cons.1 h
    refine cons_unquoted hend ?_
    rw [if_neg (not_or.2 ⟨hquote, hapostrophe⟩)]
    exact ih hs

/-- Inside quotes, everything but the quote is passed over. -/
theorem inside {q : Char} (h : q ∉ s) : Passes (some q) s (some q) := by
  induction s with
  | nil => exact nil (some q)
  | cons c s ih =>
    rw [List.mem_cons, not_or] at h
    refine cons_quoted ?_
    rw [if_neg (Ne.symm h.1)]
    exact ih h.2

/-- A quoted text is passed over. -/
theorem quoted (h : '"' ∉ s) : Passes none ('"' :: s ++ ['"']) none := by
  have hopen : Passes none ['"'] (some '"') := cons_unquoted (by decide) (nil _)
  have hclose : Passes (some '"') ['"'] none := cons_quoted (nil _)
  exact (hopen.append (inside h)).append hclose

theorem cutTag?_eq_some (h : Passes none s none) (rest : Text) :
    cutTag? none (s ++ '>' :: rest) = some (s, rest) := by
  rw [h, cutTag?_unquoted, if_pos rfl]
  simp

end Passes

/-! ### The other kinds -/

/-- Searching for a closing `>`, one passes over a text in which no `>` closes. -/
theorem cutWhere?_append {closes : Text → Bool} {s : Text} (seen : Text)
    (h : ∀ front back, s = front ++ '>' :: back → closes (front.reverse ++ seen) = false)
    (rest : Text) :
    cutWhere? closes seen (s ++ rest) =
      (cutWhere? closes (s.reverse ++ seen) rest).map fun cut => (s ++ cut.1, cut.2) := by
  induction s generalizing seen with
  | nil => simp
  | cons c s ih =>
    have hc : ¬ (c = '>' ∧ closes seen = true) := by
      rintro ⟨rfl, hcloses⟩
      exact Bool.false_ne_true ((h [] s rfl).symm.trans hcloses)
    have hs : ∀ front back, s = front ++ '>' :: back →
        closes (front.reverse ++ c :: seen) = false := by
      rintro front back rfl
      have hlonger := h (c :: front) back rfl
      rwa [List.reverse_cons, List.append_assoc] at hlonger
    rw [List.cons_append, cutWhere?, if_neg hc, ih (c :: seen) hs, List.reverse_cons,
      List.append_assoc, Option.map_map]
    rfl

/-- A text is cut off whole if it stands between two marks without `>`, no `>` in it closes, and
the one after it does. -/
theorem cutWhere?_eq_some {closes : Text → Bool} {mark s close : Text} (hmark : '>' ∉ mark)
    (hclose : '>' ∉ close)
    (hs : ∀ front back, s = front ++ '>' :: back → closes (front.reverse ++ mark.reverse) = false)
    (hend : closes (mark ++ s ++ close).reverse = true) (rest : Text) :
    cutWhere? closes [] (mark ++ s ++ close ++ '>' :: rest) = some (mark ++ s ++ close, rest) := by
  have hnone : ∀ {t : Text} (seen : Text), '>' ∉ t → ∀ front back, t = front ++ '>' :: back →
      closes (front.reverse ++ seen) = false := by
    rintro t seen ht front back rfl
    exact absurd (List.mem_append_right front (List.mem_cons_self ..)) ht
  rw [List.append_assoc, List.append_assoc, cutWhere?_append [] (hnone [] hmark),
    cutWhere?_append _ (by simpa using hs), cutWhere?_append _ (hnone _ hclose), cutWhere?,
    if_pos ⟨rfl, by simpa using hend⟩]
  simp

/-- Where a mark of two equal characters and `>` would be found, it is in the text. -/
theorem infix_of_closing {d : Char} {front others : Text} (hlength : 2 ≤ front.length)
    (h : [d, d].isPrefixOf (front.reverse ++ others) = true) (back : Text) :
    [d, d, '>'] <:+: front ++ '>' :: back := by
  have hreverse : [d, d] <+: front.reverse :=
    List.prefix_of_prefix_length_le (List.isPrefixOf_iff_prefix.1 h) (List.prefix_append _ _)
      (by simpa using hlength)
  obtain ⟨before, hbefore⟩ := List.reverse_suffix.2 hreverse
  rw [List.reverse_reverse] at hbefore
  refine ⟨before, back, ?_⟩
  rw [← hbefore]
  simp

theorem cut?_verbatim (s : Verbatim) (rest : Text) :
    cut? .verbatim ("![CDATA[".toList ++ s.text ++ [']', ']'] ++ '>' :: rest) =
      some ("![CDATA[".toList ++ s.text ++ [']', ']'], rest) := by
  refine cutWhere?_eq_some (by decide) (by decide) (fun front back hs => ?_) (by simp) rest
  rw [Bool.eq_false_iff]
  intro hcloses
  by_cases hlength : 2 ≤ front.length
  · have hinfix := infix_of_closing hlength hcloses back
    rw [← hs] at hinfix
    exact s.not_infix hinfix
  · -- what stands before the text ends with a bracket that opens
    rcases front with _ | ⟨x, _ | ⟨y, front⟩⟩
    · simp at hcloses
    · simp at hcloses
    · simp at hlength

theorem cut?_comment (s : Comment) (rest : Text) :
    cut? .comment ("!--".toList ++ s.text ++ ['-', '-'] ++ '>' :: rest) =
      some ("!--".toList ++ s.text ++ ['-', '-'], rest) := by
  refine cutWhere?_eq_some (by decide) (by decide) (fun front back hs => ?_) (by simp) rest
  rw [Bool.eq_false_iff, Ne, Bool.and_eq_true, decide_eq_true_eq]
  rintro ⟨hlength, hcloses⟩
  have hinfix := infix_of_closing (by simp at hlength; omega) hcloses back
  rw [← hs] at hinfix
  exact s.not_infix hinfix

theorem cut?_instruction (s : Instruction) (rest : Text) :
    cut? .instruction ('?' :: s.text ++ ['?'] ++ '>' :: rest) =
      some ('?' :: s.text ++ ['?'], rest) := by
  show cutWhere? _ [] (['?'] ++ s.text ++ ['?'] ++ '>' :: rest) = _
  refine cutWhere?_eq_some (by decide) (by decide) (fun front back hs => ?_) (by simp) rest
  rw [Bool.eq_false_iff]
  intro hcloses
  have hreverse : ['?'] <+: ('?' :: front).reverse := by
    rw [List.reverse_cons]
    exact List.isPrefixOf_iff_prefix.1 hcloses
  obtain ⟨before, hbefore⟩ := List.reverse_suffix.2 hreverse
  rw [List.reverse_reverse] at hbefore
  refine s.not_infix ⟨before, back, ?_⟩
  rw [hs, ← List.cons_append, ← hbefore]
  simp

/-! ### What follows a piece of markup -/

section Append

variable {s content rest : Text}

/-- A cut is made by going through a text from the left. What a character does, to end the cut or to
change the state, does not depend on what follows it. -/
structure GoesThrough {State : Type} (cut : State → Text → Option (Text × Text)) : Prop where
  nil (state : State) : cut state [] = none
  cons (state : State) (c : Char) : (∀ s, cut state (c :: s) = some ([], s)) ∨
    ∃ after, ∀ s, cut state (c :: s) = (cut after s).map fun cut => (c :: cut.1, cut.2)

theorem GoesThrough.append {State : Type} {cut : State → Text → Option (Text × Text)}
    (hcut : GoesThrough cut) {state : State} (h : cut state s = some (content, rest)) (t : Text) :
    cut state (s ++ t) = some (content, rest ++ t) := by
  induction s generalizing state content with
  | nil =>
    rw [hcut.nil] at h
    cases h
  | cons c s ih =>
    rw [List.cons_append]
    rcases hcut.cons state c with hends | ⟨after, hpasses⟩
    · rw [hends] at h ⊢
      cases h
      rfl
    · rw [hpasses] at h ⊢
      obtain ⟨later, hlater, heq⟩ := Option.map_eq_some_iff.1 h
      cases heq
      exact Option.map_eq_some_iff.2 ⟨_, ih hlater, rfl⟩

theorem goesThrough_cutTag? : GoesThrough cutTag? where
  nil _ := rfl
  cons quote c := by
    by_cases hends : quote = none ∧ c = '>'
    · exact .inl fun s => if_pos hends
    · exact .inr ⟨_, fun s => if_neg hends⟩

theorem goesThrough_cutBalanced? : GoesThrough cutBalanced? where
  nil _ := rfl
  cons depth c := by
    by_cases hends : depth = 0 ∧ c = '>'
    · exact .inl fun s => if_pos hends
    · exact .inr ⟨_, fun s => if_neg hends⟩

theorem goesThrough_cutWhere? (closes : Text → Bool) : GoesThrough (cutWhere? closes) where
  nil _ := rfl
  cons seen c := by
    by_cases hends : c = '>' ∧ closes seen = true
    · exact .inl fun s => if_pos hends
    · exact .inr ⟨_, fun s => if_neg hends⟩

/-- What follows the end of a piece of markup is not looked at. -/
theorem cut?_append {kind : Kind} (h : kind.cut? s = some (content, rest)) (t : Text) :
    kind.cut? (s ++ t) = some (content, rest ++ t) := by
  cases kind with
  | tag => exact goesThrough_cutTag?.append h t
  | docType => exact goesThrough_cutBalanced?.append h t
  | comment | verbatim | instruction => exact (goesThrough_cutWhere? _).append h t

theorem of_eq_tag {c : Char} (hinstruction : c ≠ '?') (hdeclaration : c ≠ '!') (s : Text) :
    of (c :: s) = .ok .tag := by
  simp [of, hdeclaration]

theorem of_declaration {c : Char} (hverbatim : c ≠ '[') (hcomment : c ≠ '-') (s : Text) :
    of ('!' :: c :: s) = if c = 'D' ∨ c = 'd' then .ok .docType else .error .unknownMarkup := by
  simp [of]

/-- The kind of markup is decided by its first characters. -/
theorem of_append {kind : Kind} (h : of s = .ok kind) (t : Text) : of (s ++ t) = .ok kind := by
  rcases s with _ | ⟨c, s⟩
  · cases h
  rw [← h, List.cons_append]
  by_cases hinstruction : c = '?'
  · rw [hinstruction]
    rfl
  by_cases hdeclaration : c = '!'
  · subst hdeclaration
    rcases s with _ | ⟨d, s⟩
    · cases h
    by_cases hverbatim : d = '['
    · rw [hverbatim]
      rfl
    by_cases hcomment : d = '-'
    · rw [hcomment]
      rfl
    rw [List.cons_append, of_declaration hverbatim hcomment, of_declaration hverbatim hcomment]
  · rw [of_eq_tag hinstruction hdeclaration, of_eq_tag hinstruction hdeclaration]

end Append

end Kind

/-! ### Reading markup -/

/-- What is written between angle brackets is read as an event, in front of anything. -/
def Reads (body : Text) (event : Event) : Prop :=
  ∀ rest, ∃ size, readMarkup (body ++ '>' :: rest) = .ok (event, size, rest)

theorem reads_of_cut? {kind : Kind} {body : Text} {event : Event}
    (hkind : ∀ rest, Kind.of (body ++ rest) = .ok kind)
    (hcut : ∀ rest, kind.cut? (body ++ '>' :: rest) = some (body, rest))
    (hevent : kind.event body = .ok event) : Reads body event := by
  intro rest
  refine ⟨Text.utf8Length body + 2, ?_⟩
  rw [readMarkup, hkind]
  simp only [hcut, hevent]

/-- What follows a piece of markup is not looked at. -/
theorem readMarkup_append {s rest : Text} {event : Event} {size : Nat}
    (h : readMarkup s = .ok (event, size, rest)) (t : Text) :
    readMarkup (s ++ t) = .ok (event, size, rest ++ t) := by
  rw [readMarkup] at h
  split at h
  · cases h
  · next kind hkind =>
    split at h
    · cases h
    · next content after hcut =>
      split at h
      · cases h
      · next read hevent =>
        cases h
        rw [readMarkup, Kind.of_append hkind]
        simp only [Kind.cut?_append hcut, hevent]

/-- Markup that is read alone is read in front of anything. -/
theorem reads_iff {body : Text} {event : Event} :
    Reads body event ↔ ∃ size, readMarkup (body ++ ['>']) = .ok (event, size, []) := by
  constructor
  · intro h
    exact h []
  · rintro ⟨size, h⟩ rest
    have happend : body ++ '>' :: rest = body ++ ['>'] ++ rest := by simp
    exact ⟨size, happend ▸ readMarkup_append h rest⟩

/-- Markup that breaks off before its end cannot be read. If it could, then the whole would have
been read as the same, and something would be left of it. -/
theorem readMarkup_of_prefix {body begun : Text} {event : Event} (h : Reads body event)
    (hbegun : begun <+: body) : ∃ fault, readMarkup begun = .error fault := by
  obtain ⟨missing, rfl⟩ := hbegun
  cases hread : readMarkup begun with
  | error fault => exact ⟨fault, rfl⟩
  | ok found =>
    obtain ⟨read, length, rest⟩ := found
    obtain ⟨size, hwhole⟩ := h []
    rw [List.append_assoc, readMarkup_append hread, Except.ok.injEq, Prod.mk.injEq,
      Prod.mk.injEq] at hwhole
    obtain ⟨-, -, hrest⟩ := hwhole
    simp at hrest

theorem reads_verbatim (s : Verbatim) :
    Reads ("![CDATA[".toList ++ s.text ++ [']', ']']) (.verbatim s.text) := by
  refine reads_of_cut? (fun _ => rfl) (Kind.cut?_verbatim s) ?_
  rw [Kind.event, if_pos (by simp)]
  simp

theorem reads_comment (s : Comment) : Reads ("!--".toList ++ s.text ++ ['-', '-']) .aside := by
  refine reads_of_cut? (fun _ => rfl) (Kind.cut?_comment s) ?_
  rw [Kind.event, if_pos (by simp)]

theorem reads_instruction (s : Instruction) : Reads ('?' :: s.text ++ ['?']) .aside := by
  refine reads_of_cut? (fun _ => rfl) (Kind.cut?_instruction s) ?_
  rw [Kind.event, if_pos (by simp)]

/-! ### Reading tags -/

theorem Kind.of_cons {c : Char} (hc : isNamePart c = true ∨ c = '/') (s : Text) :
    Kind.of (c :: s) = .ok .tag := by
  have hne : c ≠ '?' ∧ c ≠ '!' := by
    rcases hc with hc | rfl
    · exact ⟨ne_of_isNamePart hc (by decide), ne_of_isNamePart hc (by decide)⟩
    · decide
  simp [Kind.of, hne]

namespace Start

open Kind (Passes)

theorem passes_name (name : Name) : Passes none name.text none := by
  refine Passes.plain fun c hc => ?_
  have hpart := name.isNamePart_of_mem c hc
  exact ⟨ne_of_isNamePart hpart (by decide), ne_of_isNamePart hpart (by decide),
    ne_of_isNamePart hpart (by decide)⟩

theorem passes_attribute (item : Name × Text) : Passes none (printAttribute item) none := by
  have hspace : Passes none [' '] none := .plain (by simp)
  have hequals : Passes none ['='] none := .plain (by simp)
  have hvalue : Passes none ('"' :: escape item.2 ++ ['"']) none :=
    .quoted (not_mem_escape (by decide) item.2)
  have hprint : printAttribute item =
      [' '] ++ item.1.text ++ ['='] ++ ('"' :: escape item.2 ++ ['"']) := by
    simp [printAttribute]
  rw [hprint]
  exact ((hspace.append (passes_name item.1)).append hequals).append hvalue

theorem passes_attributes (items : List (Name × Text)) :
    Passes none (items.flatMap printAttribute) none := by
  induction items with
  | nil => exact .nil none
  | cons item items ih =>
    rw [List.flatMap_cons]
    exact (passes_attribute item).append ih

theorem passes_print (start : Start) : Passes none start.print none :=
  (passes_name start.name).append (passes_attributes start.attributes)

/-- A written tag begins with a character of its name. -/
theorem exists_print_eq_cons (start : Start) :
    ∃ c s, start.print = c :: s ∧ isNamePart c = true := by
  obtain ⟨c, s, hname, hc, -⟩ := start.name.exists_cons
  refine ⟨c, s ++ start.attributes.flatMap printAttribute, ?_, hc⟩
  rw [print, hname]
  rfl

/-- A written tag ends with a quote or with a character of its name, so not with a slash. -/
theorem getLast?_print_ne (start : Start) : start.print.getLast? ≠ some '/' := by
  rw [print]
  rcases List.eq_nil_or_concat start.attributes with h | ⟨items, item, h⟩
  · rw [h, List.flatMap_nil, List.append_nil]
    intro hlast
    have hpart := start.name.isNamePart_of_mem _ (List.mem_of_getLast? hlast)
    exact absurd hpart (by decide)
  · have hprint : start.name.text ++ start.attributes.flatMap printAttribute =
        start.name.text ++ items.flatMap printAttribute ++
          (' ' :: item.1.text ++ '=' :: '"' :: escape item.2) ++ ['"'] := by
      simp [h, printAttribute]
    rw [hprint, List.getLast?_concat]
    decide

end Start

theorem reads_tag {body : Text} (hpasses : Kind.Passes none body none) {c : Char} {s : Text}
    (hbody : body = c :: s) (hc : isNamePart c = true ∨ c = '/') :
    Reads body (Kind.tagEvent body) := by
  have hkind : ∀ rest, Kind.of (body ++ rest) = .ok .tag := by
    intro rest
    rw [hbody]
    exact Kind.of_cons hc (s ++ rest)
  exact reads_of_cut? hkind (fun rest => hpasses.cutTag?_eq_some rest) rfl

/-- A start tag begins like a name and does not end with a slash. -/
theorem reads_opening_of_passes {body : Text} (hpasses : Kind.Passes none body none) {c : Char}
    {s : Text} (hbody : body = c :: s) (hc : isNamePart c = true)
    (hlast : body.getLast? ≠ some '/') : Reads body (.opening ⟨body⟩) := by
  have hhead : body.head? ≠ some '/' := by
    rw [hbody, List.head?_cons, Ne, Option.some.injEq]
    exact ne_of_isNamePart hc (by decide)
  have hread := reads_tag hpasses hbody (.inl hc)
  rwa [Kind.tagEvent, if_neg hhead, if_neg hlast] at hread

/-- The tag of an empty element begins like a name and has a slash at its end. -/
theorem reads_empty_of_passes {body : Text} (hpasses : Kind.Passes none body none) {c : Char}
    {s : Text} (hbody : body = c :: s) (hc : isNamePart c = true) :
    Reads (body ++ ['/']) (.empty ⟨body⟩) := by
  have hslashed : body ++ ['/'] = c :: (s ++ ['/']) := by rw [hbody, List.cons_append]
  have hhead : (body ++ ['/']).head? ≠ some '/' := by
    rw [hslashed, List.head?_cons, Ne, Option.some.injEq]
    exact ne_of_isNamePart hc (by decide)
  have hslash : Kind.Passes none ['/'] none := .plain (by simp)
  have hread := reads_tag (hpasses.append hslash) hslashed (.inl hc)
  rwa [Kind.tagEvent, if_neg hhead, if_pos List.getLast?_concat, List.dropLast_concat] at hread

theorem reads_opening (start : Start) : Reads start.print (.opening start.tag) := by
  obtain ⟨c, s, hprint, hc⟩ := start.exists_print_eq_cons
  exact reads_opening_of_passes start.passes_print hprint hc start.getLast?_print_ne

theorem reads_empty (start : Start) : Reads (start.print ++ ['/']) (.empty start.tag) := by
  obtain ⟨c, s, hprint, hc⟩ := start.exists_print_eq_cons
  exact reads_empty_of_passes start.passes_print hprint hc

/-- The spaces after the name of an end tag are dropped. -/
theorem Kind.endEvent_name (name : Name) {gap : Text} (hgap : ∀ c ∈ gap, isSpace c = true) :
    Kind.endEvent (name.text ++ gap) = .closing name.text := by
  have hspace : ∀ c ∈ name.text, isSpace c = false := fun c hc =>
    isSpace_of_isNamePart (name.isNamePart_of_mem c hc)
  have hall : ¬ (name.text ++ gap).all isSpace = true := by
    obtain ⟨c, s, hname, -⟩ := name.exists_cons
    rw [hname, List.cons_append, List.all_cons, hspace c (hname ▸ List.mem_cons_self ..)]
    exact Bool.false_ne_true
  have hlast : name.text.reverse.dropWhile isSpace = name.text.reverse := by
    rcases hreverse : name.text.reverse with _ | ⟨c, s⟩
    · rfl
    · have hc : c ∈ name.text := List.mem_reverse.1 (hreverse ▸ List.mem_cons_self ..)
      exact List.dropWhile_cons_of_neg (Bool.eq_false_iff.1 (hspace c hc))
  have hdrop : (name.text ++ gap).reverse.dropWhile isSpace = name.text.reverse := by
    rw [List.reverse_append, List.dropWhile_append_of_pos, hlast]
    exact fun c hc => hgap c (List.mem_reverse.1 hc)
  rw [Kind.endEvent, if_neg hall, hdrop, List.reverse_reverse]

theorem ne_of_isSpace {c d : Char} (hc : isSpace c = true) (hd : isSpace d = false) : c ≠ d := by
  rintro rfl
  exact Bool.false_ne_true (hd.symm.trans hc)

/-- An end tag may have spaces after the name. -/
theorem reads_closing_gap (name : Name) {gap : Text} (hgap : ∀ c ∈ gap, isSpace c = true) :
    Reads ('/' :: name.text ++ gap) (.closing name.text) := by
  have hslash : Kind.Passes none ['/'] none := .plain (by simp)
  have hspaces : Kind.Passes none gap none := .plain fun c hc =>
    ⟨ne_of_isSpace (hgap c hc) (by decide), ne_of_isSpace (hgap c hc) (by decide),
      ne_of_isSpace (hgap c hc) (by decide)⟩
  have hread := reads_tag ((hslash.append (Start.passes_name name)).append hspaces) rfl (.inr rfl)
  rw [← Kind.endEvent_name name hgap]
  exact hread

theorem reads_closing (name : Name) : Reads ('/' :: name.text) (.closing name.text) := by
  have hread := reads_closing_gap name (List.forall_mem_nil _)
  rwa [List.append_nil] at hread

end Xml

end DoxTriage
