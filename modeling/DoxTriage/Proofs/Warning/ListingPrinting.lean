import DoxTriage.Proofs.Text.Rows
import DoxTriage.Proofs.Warning.Listing

/-!
# Listings that are written and read again

A log of empty blocks is written line by line, with blank lines wherever one likes, and with a line
feed at its end or without one. What is read from it is what was written.

The file may contain a listing of its own, and the reader prefers the longest file. It does not go
too far for one reason: a listing has two colons, one on each side of its number, and a file that
reaches into the listing leaves one of them at most to what follows. So it is enough that neither
the free text nor the name has a colon. What a line loses when it is read is the last of the blanks
behind the name, or nothing.

## Main definitions

* `EmptyBlock.Entry`, `EmptyBlock.Entry.text`: a block as it is listed.
* `EmptyBlock.Row`, `EmptyBlock.print`: a line of a log, which lists a block or is blank, and the
  log as it is written.

## Main results

* `EmptyBlock.Entry.lists_text`: a line lists the block that was written.
* `Warning.ofEmptyBlockLog_print`: a log that is written from entries is read as these entries.
-/

namespace DoxTriage

namespace EmptyBlock

/-! ### Entries and rows -/

/-- A block as it is listed: what it is indented with, the text between command and name, and the
blanks behind the name. -/
structure Entry where
  block : EmptyBlock
  indent : Text
  free : Text
  trail : Text
  deriving DecidableEq, Repr

/-- A line of a log. -/
inductive Row where
  | blank (spaces : Text)
  | entry (entry : Entry)
  deriving DecidableEq, Repr

namespace Entry

/-- The line that lists the block. -/
def text (entry : Entry) : Text :=
  entry.block.file ++ ":".toList ++ Text.decimal entry.block.line ++ ":".toList ++ entry.indent ++
    entry.block.command ++ entry.free ++ " ".toList ++ entry.block.name ++ entry.trail

/-- What stands behind the file. -/
def listing (entry : Entry) : Listing where
  digits := Text.decimal entry.block.line
  indent := entry.indent
  command := entry.block.command
  free := entry.free
  gap := ' '
  name := entry.block.name
  trail := entry.trail

/-- A block that can be listed so that it can be read. -/
structure Printable (extensions : List Text) (entry : Entry) : Prop where
  inSource : InSource extensions entry.block
  file_line : '\n' ∉ entry.block.file
  line_lt : entry.block.line < lineBound
  indent_of_mem : ∀ c ∈ entry.indent, isBlank c = true ∨ c = '*'
  indent_line : '\n' ∉ entry.indent
  command_mem : entry.block.command ∈ ParameterCommand.all
  free_colon : ':' ∉ entry.free
  free_line : '\n' ∉ entry.free
  isSolid_name : Text.isSolid entry.block.name = true
  name_colon : ':' ∉ entry.block.name
  isBlank_of_mem : ∀ c ∈ entry.trail, isBlank c = true
  trail_line : '\n' ∉ entry.trail

theorem text_eq (entry : Entry) : entry.text = entry.block.file ++ entry.listing.text := by
  unfold text
  simp only [List.append_assoc]
  rfl

variable {extensions : List Text} {entry : Entry}

theorem Printable.wellFormed (h : entry.Printable extensions) : entry.listing.WellFormed where
  digits_ne_nil := Text.decimal_ne_nil _
  isDigit_of_mem := Text.isDigit_decimal _
  indent_of_mem := h.indent_of_mem
  command_mem := h.command_mem
  isBlank_gap := (by decide : isBlank ' ' = true)
  isSolid_name := h.isSolid_name
  isBlank_of_mem := h.isBlank_of_mem

end Entry

namespace Row

/-- The line as it is written. -/
def text : Row → Text
  | .blank spaces => spaces
  | .entry e => e.text

/-- The block that is listed on a line. -/
def block? : Row → Option EmptyBlock
  | .blank _ => none
  | .entry e => some e.block

/-- A blank line is made of blanks and is one line, and an entry can be listed. -/
def Printable (extensions : List Text) : Row → Prop
  | .blank spaces => (∀ c ∈ spaces, isBlank c = true) ∧ '\n' ∉ spaces
  | .entry e => e.Printable extensions

/-- The line as it is read: as it is written, or without the return at its end. -/
def Spells (row : Row) (line : Text) : Prop :=
  line = row.text ∨ line = Text.dropReturn row.text

end Row

variable {extensions : List Text} {entry : Entry} {row : Row}

/-! ### Where the file ends -/

/-- A listing has the colons on both sides of its number. -/
theorem Listing.two_le_count (listing : Listing) : 2 ≤ listing.text.count ':' := by
  rw [text, List.count_cons_self, List.count_append, List.count_cons_self]
  omega

theorem isBlank_colon : isBlank ':' = false := by decide

/-- No colon stands behind the number of an entry. -/
theorem Entry.Printable.count_listing (h : entry.Printable extensions) :
    entry.listing.text.count ':' = 2 := by
  have hdigits : ':' ∉ Text.decimal entry.block.line := Text.not_mem_decimal (by decide) _
  have hindent : ':' ∉ entry.indent := fun hmem => absurd (h.indent_of_mem _ hmem) (by decide)
  have hcommand : ∀ command ∈ ParameterCommand.all, ':' ∉ command := by decide
  have htrail : ':' ∉ entry.trail := fun hmem => absurd (h.isBlank_of_mem _ hmem) (by decide)
  have hgap : ':' ∉ ' ' :: (entry.block.name ++ entry.trail) :=
    List.not_mem_cons_of_ne_of_not_mem (by decide) (Text.not_mem_append h.name_colon htrail)
  have hbehind := Text.not_mem_append hindent (Text.not_mem_append (hcommand _ h.command_mem)
    (Text.not_mem_append h.free_colon hgap))
  simp only [Listing.text, Entry.listing, List.count_cons_self, List.count_append,
    List.count_eq_zero_of_not_mem hdigits, List.count_eq_zero_of_not_mem hbehind]

theorem InSource.file_ne_nil {block : EmptyBlock} (h : InSource extensions block) :
    block.file ≠ [] := by
  obtain ⟨extension, ⟨stem, hlast, -⟩, -⟩ := h
  intro hnil
  rw [hnil] at hlast
  cases hlast

/-- **A line lists the block that was written.** -/
theorem Entry.lists_text (h : entry.Printable extensions) : Lists entry.text entry.block := by
  refine ⟨entry.listing, ⟨⟨entry.text_eq, h.inSource.file_ne_nil, h.wellFormed⟩, ?_⟩,
    Text.writes_decimal h.line_lt, rfl, rfl⟩
  intro other otherListing hother
  by_contra hlonger
  have hline : entry.block.file ++ entry.listing.text = other ++ otherListing.text :=
    entry.text_eq.symm.trans hother.line_eq
  rcases List.append_eq_append_iff.1 hline with ⟨more, rfl, hlisting⟩ | ⟨more, hfile, -⟩
  · cases more with
    | nil => simp at hlonger
    | cons c more =>
      -- the longer file takes the first colon of the listing
      have hc : c = ':' := (List.cons.inj hlisting).1.symm
      have hcount := congrArg (List.count ':') hlisting
      rw [h.count_listing, hc, List.count_append, List.count_cons_self] at hcount
      have htwo := otherListing.two_le_count
      omega
  · rw [hfile, List.length_append] at hlonger
    exact hlonger (Nat.le_add_right ..)

/-! ### What a line loses when it is read -/

namespace Entry

theorem dropReturn_text (h : entry.Printable extensions) :
    Text.dropReturn entry.text = text { entry with trail := Text.dropReturn entry.trail } := by
  have hne : entry.block.name ++ entry.trail ≠ [] :=
    List.append_ne_nil_of_left_ne_nil (Text.isSolid_iff.1 h.isSolid_name).1 _
  unfold text
  rw [List.append_assoc _ entry.block.name, Text.dropReturn_append hne,
    Text.dropReturn_append_of_isSolid h.isSolid_name, ← List.append_assoc]

theorem Printable.dropReturn (h : entry.Printable extensions) :
    Printable extensions { entry with trail := Text.dropReturn entry.trail } :=
  { h with
    isBlank_of_mem := fun c hc =>
      h.isBlank_of_mem c ((Text.isPrefix_dropReturn entry.trail).subset hc)
    trail_line := Text.not_mem_dropReturn h.trail_line }

theorem isBlankLine_text (entry : Entry) : Text.isBlankLine entry.text = false := by
  rw [text_eq, Text.isBlankLine, List.all_append, Listing.text, List.all_cons, isBlank_colon,
    Bool.false_and, Bool.and_false]

theorem text_line (h : entry.Printable extensions) : '\n' ∉ entry.text := by
  have hcolon : '\n' ∉ ":".toList := by decide
  have hnumber : '\n' ∉ Text.decimal entry.block.line := Text.not_mem_decimal (by decide) _
  have hcommand : ∀ command ∈ ParameterCommand.all, '\n' ∉ command := by decide
  have hgap : '\n' ∉ " ".toList := by decide
  have hname : '\n' ∉ entry.block.name := Text.not_mem_of_isSolid h.isSolid_name (by decide)
  exact Text.not_mem_append (Text.not_mem_append (Text.not_mem_append (Text.not_mem_append
    (Text.not_mem_append (Text.not_mem_append (Text.not_mem_append (Text.not_mem_append
      (Text.not_mem_append h.file_line hcolon) hnumber) hcolon) h.indent_line)
      (hcommand _ h.command_mem)) h.free_line) hgap) hname) h.trail_line

end Entry

namespace Row

theorem text_line (h : row.Printable extensions) : '\n' ∉ row.text := by
  cases row with
  | blank spaces => exact h.2
  | entry e => exact Entry.text_line h

/-- A line that is read is blank, or it lists the block of its row. -/
theorem ofLine?_of_spells {line : Text} (h : row.Printable extensions) (hline : row.Spells line) :
    (Text.isBlankLine line = true ∧ row.block? = none) ∨
      ∃ block, Text.isBlankLine line = false ∧ row.block? = some block ∧
        ofLine? line = some block := by
  have hblank : Text.isBlankLine line = Text.isBlankLine row.text := by
    rcases hline with rfl | rfl
    · rfl
    · exact Text.isBlankLine_dropReturn row.text
  cases row with
  | blank spaces =>
    exact .inl ⟨hblank.trans (List.all_eq_true.2 h.1), rfl⟩
  | entry e =>
    refine .inr ⟨e.block, hblank.trans e.isBlankLine_text, rfl, ofLine?_eq_some_iff.2 ?_⟩
    rcases hline with rfl | rfl
    · exact Entry.lists_text h
    · rw [text, Entry.dropReturn_text h]
      exact Entry.lists_text (Entry.Printable.dropReturn h)

/-- The lines that are not blank list the blocks of the rows. -/
theorem forall₂_ofLine? {rows : List Row} {lines : List Text}
    (h : ∀ row ∈ rows, row.Printable extensions) (hlines : List.Forall₂ Spells rows lines) :
    List.Forall₂ (fun line block => ofLine? line = some block)
      (lines.filter (! Text.isBlankLine ·)) (rows.filterMap block?) := by
  induction hlines with
  | nil => exact .nil
  | cons hline hlines ih =>
    obtain ⟨hrow, hrows⟩ := List.forall_mem_cons.1 h
    rcases ofLine?_of_spells hrow hline with ⟨hblank, hnone⟩ | ⟨block, hblank, hsome, hread⟩
    · rw [List.filter_cons_of_neg (by simp [hblank]), List.filterMap_cons_none hnone]
      exact ih hrows
    · rw [List.filter_cons_of_pos (by simp [hblank]), List.filterMap_cons_some hsome]
      exact .cons hread (ih hrows)

end Row

/-! ### Whole logs -/

/-- The log as it is written: its rows, with a line feed between them. If the last row is empty then
the log ends in a line feed. -/
def print (rows : List Row) : Text :=
  Text.join ['\n'] (rows.map Row.text)

variable {rows : List Row}

/-- The lines of a log are its rows, but for an empty one at the end. -/
theorem exists_spells (h : ∀ row ∈ rows, row.Printable extensions) :
    ∃ lines, List.Forall₂ Row.Spells rows lines ∧
      (Text.lines (print rows)).filter (! Text.isBlankLine ·) =
        lines.filter (! Text.isBlankLine ·) := by
  rcases List.eq_nil_or_concat' rows with rfl | ⟨front, last, rfl⟩
  · exact ⟨[], .nil, rfl⟩
  · obtain ⟨hfront, hlast⟩ := List.forall_mem_append.1 h
    have hrows : ∀ line ∈ front.map Row.text, '\n' ∉ line := by
      intro line hline
      obtain ⟨row, hrow, rfl⟩ := List.mem_map.1 hline
      exact Row.text_line (hfront row hrow)
    refine ⟨front.map (Text.dropReturn ∘ Row.text) ++ [last.text], ?_, ?_⟩
    · refine List.rel_append ?_ (.cons (.inl rfl) .nil)
      rw [List.forall₂_map_right_iff, List.forall₂_same]
      exact fun row _ => .inr rfl
    · rw [print, List.map_append, List.map_singleton, Text.join_concat,
        Text.lines_rows_append hrows (Row.text_line (hlast _ (List.mem_singleton.2 rfl))),
        List.map_map, List.filter_append, List.filter_append, List.filter_filter]
      refine congrArg _ (List.filter_congr fun line _ => ?_)
      cases line with
      | nil => rfl
      | cons c line => simp

/-- **The blocks of a log are read as they were written.** -/
theorem ofLog_eq_ok_of_printable (log : Path) (h : ∀ row ∈ rows, row.Printable extensions) :
    ofLog log (print rows) = .ok (rows.filterMap Row.block?) := by
  obtain ⟨lines, hlines, hread⟩ := exists_spells h
  rw [ofLog_eq_ok_iff, hread]
  exact Row.forall₂_ofLine? h hlines

theorem inSource_of_printable (h : ∀ row ∈ rows, row.Printable extensions) :
    ∀ block ∈ rows.filterMap Row.block?, InSource extensions block := by
  intro block hblock
  obtain ⟨row, hrow, hrowblock⟩ := List.mem_filterMap.1 hblock
  cases row with
  | blank spaces => cases hrowblock
  | entry e =>
    cases hrowblock
    exact (h _ hrow).inSource

end EmptyBlock

namespace Warning

/-- **A log that is written from entries is read as these entries**, whatever blank lines stand
between them: the blocks are the ones that were written, in order, and there is a warning for
each. -/
theorem ofEmptyBlockLog_print (extensions : List Text) (log : Path) (rows : List EmptyBlock.Row)
    (h : ∀ row ∈ rows, row.Printable extensions) :
    EmptyBlock.ofLog log (EmptyBlock.print rows) =
        .ok (rows.filterMap EmptyBlock.Row.block?) ∧
      ∃ warnings, ofEmptyBlockLog extensions log (EmptyBlock.print rows) = .ok warnings ∧
        List.Forall₂ EmptyBlock.Told (rows.filterMap EmptyBlock.Row.block?) warnings := by
  have hread := EmptyBlock.ofLog_eq_ok_of_printable log h
  refine ⟨hread, _, ofEmptyBlockLog_eq_ok_iff.2 ⟨_, hread, rfl⟩, ?_⟩
  have hall : (rows.filterMap EmptyBlock.Row.block?).filter (EmptyBlock.InSource extensions ·) =
      rows.filterMap EmptyBlock.Row.block? :=
    List.filter_eq_self.2 fun block hblock =>
      decide_eq_true (EmptyBlock.inSource_of_printable h block hblock)
  rw [hall, List.forall₂_map_right_iff, List.forall₂_same]
  exact fun block _ => EmptyBlock.told_iff.2 rfl

/-- The first file looks like a line of the log itself, up to its extension, and the free text
behind its command has another command. The last name is a command. -/
theorem ofEmptyBlockLog_print_of_listing_in_file :
    let log : Path := ⟨"e.log".toList⟩
    let extensions := [".cpp".toList, ".hPP".toList]
    let first : EmptyBlock :=
      ⟨"src/a:7: @param x.Hpp".toList, 4294967295, "\\tparam".toList, "T".toList⟩
    let second : EmptyBlock := ⟨"b.hpp".toList, 0, "@param".toList, "@param".toList⟩
    let rows : List EmptyBlock.Row :=
      [.entry ⟨first, " * ".toList, "[in] @param y".toList, "\t\r".toList⟩, .blank " \r".toList,
        .entry ⟨second, [], [], []⟩, .blank []]
    let content : Text := ("src/a:7: @param x.Hpp:4294967295: * \\tparam[in] @param y T\t\r\n" ++
      " \r\nb.hpp:0:@param @param\n").toList
    (∀ row ∈ rows, row.Printable extensions) ∧ EmptyBlock.print rows = content ∧
      EmptyBlock.ofLog log content = .ok [first, second] ∧
      ∃ warnings, ofEmptyBlockLog extensions log content = .ok warnings ∧
        List.Forall₂ EmptyBlock.Told [first, second] warnings := by
  intro log extensions first second rows content
  have hindent : ∀ c ∈ " * ".toList, isBlank c = true ∨ c = '*' :=
    fun c hc => EmptyBlock.isIndent_iff.1 (List.all_eq_true.1 (by decide) c hc)
  have hfirst : EmptyBlock.Entry.Printable extensions
      ⟨first, " * ".toList, "[in] @param y".toList, "\t\r".toList⟩ :=
    ⟨by decide +kernel, by decide, by decide, hindent, by decide, by decide, by decide, by decide,
      by decide, by decide, List.all_eq_true.1 (by decide), by decide⟩
  have hsecond : EmptyBlock.Entry.Printable extensions ⟨second, [], [], []⟩ :=
    ⟨by decide +kernel, by decide, by decide, List.forall_mem_nil _, by decide, by decide,
      by decide, by decide, by decide, by decide, List.forall_mem_nil _, by decide⟩
  have hrows : ∀ row ∈ rows, row.Printable extensions := by
    refine List.forall_mem_cons.2 ⟨hfirst, List.forall_mem_cons.2 ⟨?_, List.forall_mem_cons.2
      ⟨hsecond, List.forall_mem_singleton.2 ?_⟩⟩⟩
    · exact ⟨List.all_eq_true.1 (by decide), by decide⟩
    · exact ⟨List.forall_mem_nil _, by decide⟩
  have hprint : EmptyBlock.print rows = content := by decide +kernel
  have hread := ofEmptyBlockLog_print extensions log rows hrows
  rw [hprint] at hread
  exact ⟨hrows, hprint, hread⟩

end Warning

end DoxTriage
