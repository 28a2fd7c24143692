import DoxTriage.Proofs.Text.Number
import DoxTriage.Proofs.Text.Word
import DoxTriage.Proofs.Warning.Log

/-!
# Logs that are written and read again

A log is written entry by entry, a record on its first line and the context indented below it. What
is read from such a log is what was written, up to what a warning leaves out of its context: the
blanks around a line, and blank lines.

Two things can go wrong, and both are matters of the texts that are written. The headline may lose a
return at its end, and the file may look finished before it ends. Nothing else can. A cut of the
line that ends the file early has the number and the sign behind it, and if these reached beyond the
file then a colon of the sign would be the colon after the file. But each colon of the sign has a
blank behind it, and the colon after the file has a digit.

## Main definitions

* `Warning.Entry`, `Warning.Entry.print`: what is written to a log.
* `Warning.Entry.LooksFinished`: a file that would be cut too early.
* `Warning.Entry.ReadAs`: a warning says what was written.

## Main results

* `Warning.Entry.shortest_opening`: the first line of a record is cut where its file ends.
* `Warning.ofLog_print`: a log that is written from entries is read as these entries.
-/

namespace DoxTriage

namespace Warning

/-! ### Entries of a log -/

/-- A line of context, and what it is indented with. -/
structure Detail where
  indent : Text
  text : Text
  deriving DecidableEq, Repr

/-- The line as it is written. -/
def Detail.row (detail : Detail) : Text :=
  detail.indent ++ detail.text

/-- The line is indented, and it is one line. -/
structure Detail.Printable (detail : Detail) : Prop where
  indent_ne_nil : detail.indent ≠ []
  isBlank_of_mem : ∀ c ∈ detail.indent, isBlank c = true
  indent_line : '\n' ∉ detail.indent
  text_line : '\n' ∉ detail.text

/-- What is written to a log for one warning. -/
structure Entry where
  file : Text
  line : Nat
  headline : Text
  context : List Detail
  deriving DecidableEq, Repr

variable {entry : Entry}

namespace Entry

/-- The first line of the record. -/
def opening (entry : Entry) : Text :=
  "doxygen:".toList ++ entry.file ++ ":".toList ++ Text.decimal entry.line ++
    ": warning: ".toList ++ entry.headline

/-- The lines of the record. -/
def rows (entry : Entry) : List Text :=
  entry.opening :: entry.context.map Detail.row

/-- The record as it is written, with a line feed after each line. -/
def print (entry : Entry) : Text :=
  entry.rows.flatMap (· ++ ['\n'])

/-- Behind its first character, a file has a number in it and the sign that comes before a message,
so that it seems to end there. -/
def LooksFinished (file : Text) : Prop :=
  ∃ before digits after, file = before ++ ':' :: (digits ++ (": warning: ".toList ++ after)) ∧
    before ≠ [] ∧ digits ≠ [] ∧ ∀ c ∈ digits, isDigit c = true

/-- An entry that can be written so that it can be read. -/
structure Printable (entry : Entry) : Prop where
  file_ne_nil : entry.file ≠ []
  file_line : '\n' ∉ entry.file
  file_end : ¬ LooksFinished entry.file
  line_lt : entry.line < lineBound
  headline_ne_nil : entry.headline ≠ []
  headline_line : '\n' ∉ entry.headline
  headline_end : entry.headline.getLast? ≠ some '\r'
  context : ∀ detail ∈ entry.context, detail.Printable

/-- A warning says what an entry says. -/
structure ReadAs (entry : Entry) (warning : Warning) : Prop where
  file_eq : warning.file = entry.file
  line_eq : warning.line = entry.line
  headline_eq : warning.headline = entry.headline
  context_eq : warning.context =
    (entry.context.map fun detail => Text.trim detail.text).filter (· ≠ [])

theorem not_looksFinished {file : Text} (h : ¬ Start.sign <:+: file.drop 3) :
    ¬ LooksFinished file := by
  rintro ⟨before, digits, after, rfl, hbefore, hdigits, -⟩
  obtain ⟨b, before, rfl⟩ := List.exists_cons_of_ne_nil hbefore
  obtain ⟨d, digits, rfl⟩ := List.exists_cons_of_ne_nil hdigits
  refine h ?_
  have hlate : Start.sign ++ after <:+ (b :: before ++ ':' :: (d :: digits ++
      (Start.sign ++ after))).drop 3 := by
    refine List.suffix_of_suffix_length_le
      ⟨b :: before ++ ':' :: d :: digits, by simp⟩ (List.drop_suffix ..) ?_
    simp only [List.length_drop, List.length_append, List.length_cons]
    omega
  exact (List.prefix_append ..).isInfix.trans hlate.isInfix

/-! ### The first line -/

/-- Behind a colon of the sign stands a blank. The induction is on the digits before the sign. -/
theorem head?_of_colon {digits front back : Text} (hdigits : ∀ c ∈ digits, isDigit c = true)
    (h : digits ++ Start.sign = front ++ ':' :: back) : back.head? = some ' ' := by
  induction digits generalizing front with
  | nil =>
    have hsign : ∀ s ∈ Start.sign.tails, s.head? = some ':' → s.tail.head? = some ' ' := by decide
    exact hsign (':' :: back) ((List.mem_tails ..).2 ⟨front, h.symm⟩) rfl
  | cons d digits ih =>
    obtain ⟨hd, hdigits⟩ := List.forall_mem_cons.1 hdigits
    cases front with
    | nil =>
      cases h
      exact absurd hd (by decide)
    | cons c front => exact ih hdigits (List.cons.inj h).2

/-- The number and the sign behind a cut do not reach beyond a colon that has a digit behind it. -/
theorem exists_after {front digits message rest : Text} {d : Char} (hd : isDigit d = true)
    (hdigits : ∀ c ∈ digits, isDigit c = true) (hfront : front ≠ [])
    (h : ':' :: (digits ++ (Start.sign ++ message)) = front ++ ':' :: d :: rest) :
    ∃ after, front = ':' :: (digits ++ (Start.sign ++ after)) := by
  have hsplit : ':' :: (digits ++ Start.sign) ++ message = front ++ ':' :: d :: rest := by
    rw [← h, List.cons_append, List.append_assoc]
  rcases List.append_eq_append_iff.1 hsplit with ⟨after, hafter, -⟩ | ⟨cut, hcut, hrest⟩
  · exact ⟨after, by rw [hafter, List.cons_append, List.append_assoc]⟩
  · cases cut with
    | nil =>
      rw [List.append_nil] at hcut
      exact ⟨[], by rw [List.append_nil, hcut]⟩
    | cons c cut =>
      obtain ⟨b, front, rfl⟩ := List.exists_cons_of_ne_nil hfront
      obtain ⟨rfl, hback⟩ := List.cons.inj hrest
      have hblank := head?_of_colon hdigits (List.cons.inj hcut).2
      cases cut with
      | nil => cases hblank
      | cons e cut =>
        cases hblank
        cases hback
        exact absurd hd (by decide)

theorem opening_eq (entry : Entry) :
    entry.opening = Start.mark ++ (entry.file ++ ':' :: (Text.decimal entry.line ++
      (Start.sign ++ entry.headline))) := by
  unfold opening
  simp only [List.append_assoc]
  rfl

/-- **The first line of a record is cut where its file ends.** -/
theorem shortest_opening (h : entry.Printable) :
    Start.Shortest entry.opening ⟨entry.file, Text.decimal entry.line, entry.headline⟩ := by
  refine ⟨⟨entry.opening_eq, h.file_ne_nil, Text.decimal_ne_nil entry.line,
    Text.isDigit_decimal entry.line, h.headline_ne_nil⟩, ?_⟩
  intro other hother
  by_contra hshort
  have hline : other.file ++ ':' :: (other.digits ++ (Start.sign ++ other.message)) =
      entry.file ++ ':' :: (Text.decimal entry.line ++ (Start.sign ++ entry.headline)) :=
    List.append_cancel_left (hother.line_eq.symm.trans entry.opening_eq)
  rcases List.append_eq_append_iff.1 hline with ⟨front, hfile, hrest⟩ | ⟨front, hfile, -⟩
  · obtain ⟨d, digits, hdecimal⟩ := List.exists_cons_of_ne_nil (Text.decimal_ne_nil entry.line)
    have hd : isDigit d = true :=
      Text.isDigit_decimal entry.line d (hdecimal ▸ List.mem_cons_self ..)
    have hfront : front ≠ [] := by
      rintro rfl
      rw [hfile, List.append_nil] at hshort
      exact hshort (Nat.le_refl _)
    rw [hdecimal] at hrest
    obtain ⟨after, hafter⟩ := exists_after hd hother.isDigit_of_mem hfront hrest
    exact h.file_end ⟨other.file, other.digits, after, hfile.trans (by rw [hafter]; rfl),
      hother.file_ne_nil, hother.digits_ne_nil, hother.isDigit_of_mem⟩
  · rw [hfile, List.length_append] at hshort
    exact hshort (Nat.le_add_right ..)

/-! ### The lines of a record -/

theorem opening_line (h : entry.Printable) : '\n' ∉ entry.opening := by
  have hmark : '\n' ∉ "doxygen:".toList := by decide
  have hcolon : '\n' ∉ ":".toList := by decide
  have hnumber : '\n' ∉ Text.decimal entry.line := Text.not_mem_decimal (by decide) _
  have hsign : '\n' ∉ ": warning: ".toList := by decide
  exact Text.not_mem_append (Text.not_mem_append (Text.not_mem_append (Text.not_mem_append
    (Text.not_mem_append hmark h.file_line) hcolon) hnumber) hsign) h.headline_line

theorem rows_line (h : entry.Printable) : ∀ row ∈ entry.rows, '\n' ∉ row := by
  refine List.forall_mem_cons.2 ⟨opening_line h, fun row hrow => ?_⟩
  obtain ⟨detail, hdetail, rfl⟩ := List.mem_map.1 hrow
  exact Text.not_mem_append (h.context detail hdetail).indent_line
    (h.context detail hdetail).text_line

/-- The first line of a record loses nothing when it is read. -/
theorem dropReturn_opening (h : entry.Printable) :
    Text.dropReturn entry.opening = entry.opening := by
  unfold opening
  rw [Text.dropReturn_append h.headline_ne_nil, Text.dropReturn_of_ne h.headline_end]

end Entry

theorem isContinuation_of_append {s t : Text} (h : isContinuation (s ++ t) = true) :
    isContinuation s = true := by
  cases s with
  | nil => rfl
  | cons c s => exact h

/-- What goes on with a record is still indented when it is read. -/
theorem Detail.Printable.isContinuation_row {detail : Detail} (h : detail.Printable) :
    isContinuation (Text.dropReturn detail.row) = true := by
  obtain ⟨lost, hrow, -⟩ := Text.exists_dropReturn_append detail.row
  have hwhole : isContinuation detail.row = true := by
    obtain ⟨c, indent, hindent⟩ := List.exists_cons_of_ne_nil h.indent_ne_nil
    rw [Detail.row, hindent]
    exact h.isBlank_of_mem c (hindent ▸ List.mem_cons_self ..)
  rw [hrow] at hwhole
  exact isContinuation_of_append hwhole

theorem Detail.Printable.trim_row {detail : Detail} (h : detail.Printable) :
    Text.trim (Text.dropReturn detail.row) = Text.trim detail.text := by
  rw [Text.trim_dropReturn, Detail.row, Text.trim_append_left h.isBlank_of_mem]

/-! ### Records one after the other -/

/-- Lines that go on with a record are taken in by it, and they begin no record. -/
theorem ofLines_cons_append (line : Text) {run rest : List Text}
    (hrun : ∀ later ∈ run, isContinuation later = true)
    (hrest : ∀ later ∈ rest.head?, isContinuation later = false) :
    ofLines (line :: (run ++ rest)) = (ofRecord? line (run ++ rest)).toList ++ ofLines rest ∧
      (run ++ rest).takeWhile isContinuation = run := by
  constructor
  · rw [ofLines]
    refine congrArg _ ?_
    induction run with
    | nil => rfl
    | cons later run ih =>
      obtain ⟨hlater, hrun⟩ := List.forall_mem_cons.1 hrun
      rw [List.cons_append, ofLines, ofRecord?, Start.ofLine?_eq_none_of_isContinuation hlater]
      exact ih hrun
  · rw [List.takeWhile_append_of_pos hrun]
    cases rest with
    | nil => rw [List.takeWhile_nil, List.append_nil]
    | cons later rest =>
      rw [List.takeWhile_cons_of_neg (by simp [hrest later rfl]), List.append_nil]

namespace Entry

/-- What is read of an entry: its record, with the lines that go on with it as they are read. -/
theorem ofRecord?_opening (h : entry.Printable) {later : List Text} :
    ofRecord? entry.opening later = some ⟨entry.file, entry.line,
      Text.join ['\n'] (entry.headline :: later.takeWhile isContinuation)⟩ := by
  rw [ofRecord?, Start.ofLine?_eq_some_iff.2 (shortest_opening h)]
  simp only [Option.bind_eq_bind, Option.bind_some, Text.lineNumber?_decimal h.line_lt]
  rfl

/-- The warning that is read says what was written. -/
theorem readAs_of_rows (h : entry.Printable) :
    entry.ReadAs ⟨entry.file, entry.line, Text.join ['\n'] (entry.headline ::
      entry.context.map fun detail => Text.dropReturn detail.row)⟩ := by
  have hlines : ∀ line ∈ entry.headline :: entry.context.map (fun detail =>
      Text.dropReturn detail.row), '\n' ∉ line := by
    refine List.forall_mem_cons.2 ⟨h.headline_line, fun line hline => ?_⟩
    obtain ⟨detail, hdetail, rfl⟩ := List.mem_map.1 hline
    have hrow := rows_line h _ (List.mem_cons_of_mem _ (List.mem_map_of_mem hdetail))
    exact Text.not_mem_dropReturn hrow
  have hpieces := Text.pieces_join (List.cons_ne_nil entry.headline _) hlines
  refine ⟨rfl, rfl, ?_, ?_⟩
  · rw [Warning.headline, hpieces]
    exact Text.dropReturn_of_ne h.headline_end
  · rw [Warning.context, hpieces, List.tail_cons, List.map_map]
    refine congrArg _ (List.map_congr_left fun detail hdetail => ?_)
    exact (h.context detail hdetail).trim_row

/-- The records of a log are read one after the other. The induction is on the entries, and the
first line of the next record ends the one before it. -/
theorem forall₂_readAs_ofLines {entries : List Entry} (h : ∀ entry ∈ entries, entry.Printable) :
    List.Forall₂ ReadAs entries (ofLines ((entries.flatMap rows).map Text.dropReturn)) := by
  induction entries with
  | nil => exact List.Forall₂.nil
  | cons entry entries ih =>
    obtain ⟨hentry, hentries⟩ := List.forall_mem_cons.1 h
    have hrows : ((entry :: entries).flatMap rows).map Text.dropReturn =
        entry.opening :: (entry.context.map (fun detail => Text.dropReturn detail.row) ++
          (entries.flatMap rows).map Text.dropReturn) := by
      rw [List.flatMap_cons, List.map_append, rows, List.map_cons, dropReturn_opening hentry,
        List.map_map, List.cons_append]
      rfl
    have hrun : ∀ later ∈ entry.context.map (fun detail => Text.dropReturn detail.row),
        isContinuation later = true := by
      intro later hlater
      obtain ⟨detail, hdetail, rfl⟩ := List.mem_map.1 hlater
      exact (hentry.context detail hdetail).isContinuation_row
    have hrest : ∀ later ∈ ((entries.flatMap rows).map Text.dropReturn).head?,
        isContinuation later = false := by
      intro later hlater
      cases entries with
      | nil => cases hlater
      | cons next entries =>
        rw [List.flatMap_cons, rows, List.cons_append, List.map_cons, List.head?_cons,
          dropReturn_opening (List.forall_mem_cons.1 hentries).1] at hlater
        cases hlater
        rfl
    obtain ⟨hread, htaken⟩ := ofLines_cons_append entry.opening hrun hrest
    rw [hrows, hread, ofRecord?_opening hentry, htaken]
    exact .cons (readAs_of_rows hentry) (ih hentries)

end Entry

/-- **A log that is written from entries is read as these entries**, one warning for each and in
order. -/
theorem ofLog_print (entries : List Entry) (h : ∀ entry ∈ entries, entry.Printable) :
    List.Forall₂ Entry.ReadAs entries (ofLog (entries.flatMap Entry.print)) := by
  have hrows : entries.flatMap Entry.print = (entries.flatMap Entry.rows).flatMap (· ++ ['\n']) :=
    (List.flatMap_assoc ..).symm
  have hlines : ∀ row ∈ entries.flatMap Entry.rows, '\n' ∉ row := by
    intro row hrow
    obtain ⟨entry, hentry, hrow⟩ := List.mem_flatMap.1 hrow
    exact Entry.rows_line (h entry hentry) row hrow
  rw [ofLog, hrows, Text.lines_rows hlines]
  exact Entry.forall₂_readAs_ofLines h

/-- Behind the first file the line reads on as if the file had ended with a number, all but the
blank after the second colon. The second file begins with a number and a sign, its line number is
the last one, and its headline is a blank. -/
theorem ofLog_print_of_ambiguous_files :
    let first : Entry := ⟨"a:5: warning".toList, 7, "m:3: warning: \rx".toList,
      [⟨"  ".toList, " more \r".toList⟩, ⟨"\t".toList, []⟩]⟩
    let second : Entry := ⟨":8: warning: z".toList, 4294967295, " ".toList, []⟩
    let content : Text := ("doxygen:a:5: warning:7: warning: m:3: warning: \rx\n   more \r\n\t\n" ++
      "doxygen::8: warning: z:4294967295: warning:  \n").toList
    (first.Printable ∧ second.Printable) ∧ [first, second].flatMap Entry.print = content ∧
      List.Forall₂ Entry.ReadAs [first, second] (ofLog content) := by
  intro first second content
  have hcontext : ∀ detail ∈ first.context, detail.Printable := by
    refine List.forall_mem_cons.2 ⟨?_, List.forall_mem_singleton.2 ?_⟩
    · exact ⟨by decide, List.all_eq_true.1 (by decide), by decide, by decide⟩
    · exact ⟨by decide, List.all_eq_true.1 (by decide), by decide, by decide⟩
  have hfirst : first.Printable :=
    ⟨by decide, by decide, Entry.not_looksFinished (by decide), by decide, by decide, by decide,
      by decide, hcontext⟩
  have hsecond : second.Printable :=
    ⟨by decide, by decide, Entry.not_looksFinished (by decide), by decide, by decide, by decide,
      by decide, by simp [second]⟩
  have hprint : [first, second].flatMap Entry.print = content := by decide +kernel
  have hread := ofLog_print [first, second]
    (List.forall_mem_cons.2 ⟨hfirst, List.forall_mem_singleton.2 hsecond⟩)
  rw [hprint] at hread
  exact ⟨⟨hfirst, hsecond⟩, hprint, hread⟩

end Warning

end DoxTriage
