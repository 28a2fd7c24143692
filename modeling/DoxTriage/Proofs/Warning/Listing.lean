import DoxTriage.Proofs.Path.Extension
import DoxTriage.Proofs.Text.Cut
import DoxTriage.Proofs.Text.Number
import DoxTriage.Proofs.Text.Word
import DoxTriage.Proofs.Warning.EmptyBlock
import Mathlib.Data.List.Forall2

/-!
# What a log of empty blocks says

A line that lists a block is a file, and behind it a listing: a number, what the block is indented
with, one of the four commands, anything at all, a blank, and the name as the last word. The file
may contain all of this, and the free text between command and name may begin with another number,
so that a line can often be cut in several ways. The cut with the longest file is the one that
counts. If its number is no line number then the line has no other reading.

Whether a log is read is decided line by line, and no list of extensions has a say in it. The
extensions only choose among the blocks afterwards, so that more of them let more warnings through.

## Main definitions

* `EmptyBlock.Listing`, `EmptyBlock.Splits`, `EmptyBlock.Longest`: what stands behind the file, a
  cut of a line, and the cut that counts.
* `EmptyBlock.Lists`, `EmptyBlock.Offends`: a line says that there is a block, or it should not be
  in the log.
* `EmptyBlock.InSource`, `EmptyBlock.Told`: a block in a source file, and the warning about it.

## Main results

* `EmptyBlock.ofLine?_eq_some_iff`, `EmptyBlock.ofLine?_eq_none_iff`: what is read from a line.
* `Warning.ofEmptyBlockLog_reading`: when a log fails and how, and what is read otherwise.
-/

namespace DoxTriage

/-! ### Commands -/

theorem ParameterCommand.read?_eq_some_iff {s command rest : Text} :
    read? s = some (command, rest) ↔ command ∈ all ∧ s = command ++ rest := by
  constructor
  · intro h
    obtain ⟨hcommand, hrest⟩ := eq_of_read? h
    exact ⟨hcommand, (List.isPrefixOf?_eq_some_iff_append_eq.1 hrest).symm⟩
  · rintro ⟨h, rfl⟩
    simp only [all, List.mem_cons, List.not_mem_nil, or_false] at h
    rcases h with rfl | rfl | rfl | rfl <;> rfl

namespace EmptyBlock

/-! ### Cutting a line -/

/-- What stands behind the file in a line that lists a block, part by part. -/
structure Listing where
  digits : Text
  indent : Text
  command : Text
  free : Text
  gap : Char
  name : Text
  trail : Text
  deriving DecidableEq, Repr

namespace Listing

/-- The listing as it is written. -/
def text (listing : Listing) : Text :=
  ':' :: (listing.digits ++ ':' :: (listing.indent ++ (listing.command ++
    (listing.free ++ listing.gap :: (listing.name ++ listing.trail)))))

theorem text_eq (listing : Listing) :
    listing.text = (':' :: (listing.digits ++ ':' :: (listing.indent ++ (listing.command ++
      listing.free)))) ++ listing.gap :: (listing.name ++ listing.trail) := by
  simp only [text, List.cons_append, List.append_assoc]

/-- The parts are what they are called: the number is made of digits, the block is indented with
blanks and asterisks, the command is one of the four, and a blank and the blanks at the end make the
name the last word. -/
structure WellFormed (listing : Listing) : Prop where
  digits_ne_nil : listing.digits ≠ []
  isDigit_of_mem : ∀ c ∈ listing.digits, isDigit c = true
  indent_of_mem : ∀ c ∈ listing.indent, isBlank c = true ∨ c = '*'
  command_mem : listing.command ∈ ParameterCommand.all
  isBlank_gap : isBlank listing.gap = true
  isSolid_name : Text.isSolid listing.name = true
  isBlank_of_mem : ∀ c ∈ listing.trail, isBlank c = true

end Listing

/-- A line is a file and a listing. -/
structure Splits (line file : Text) (listing : Listing) : Prop where
  line_eq : line = file ++ listing.text
  file_ne_nil : file ≠ []
  wellFormed : listing.WellFormed

/-- Of all cuts of a line, the one with the longest file. -/
structure Longest (line file : Text) (listing : Listing) : Prop
    extends Splits line file listing where
  length_le : ∀ other otherListing, Splits line other otherListing → other.length ≤ file.length

/-- A line says that there is a block: its longest cut has the file, the number, the command and the
name. -/
def Lists (line : Text) (block : EmptyBlock) : Prop :=
  ∃ listing, Longest line block.file listing ∧ Text.Writes listing.digits block.line ∧
    block.command = listing.command ∧ block.name = listing.name

/-- A line that should not be in the log: it is not blank, and it has no cut, or its longest cut has
no line number. -/
structure Offends (line : Text) : Prop where
  not_blank : Text.isBlankLine line = false
  unreadable : (¬ ∃ file listing, Splits line file listing) ∨
    ∃ file listing, Longest line file listing ∧ ¬ ∃ number, Text.Writes listing.digits number

variable {line s file digits command name : Text} {listing : Listing} {block : EmptyBlock}

theorem isIndent_iff {c : Char} : isIndent c = true ↔ isBlank c = true ∨ c = '*' := by
  simp [isIndent]

/-- A command ends what the block is indented with. -/
theorem exists_cons_of_command (h : command ∈ ParameterCommand.all) :
    ∃ c tail, command = c :: tail ∧ isIndent c = false := by
  simp only [ParameterCommand.all, List.mem_cons, List.not_mem_nil, or_false] at h
  rcases h with rfl | rfl | rfl | rfl <;> exact ⟨_, _, rfl, by decide⟩

/-- What is read behind a file, step by step. -/
theorem readRest_eq_some_iff_block :
    readRest s = some (digits, command, name) ↔
      ∃ block free, s = ':' :: (digits ++ ':' :: block) ∧ digits ≠ [] ∧
        (∀ c ∈ digits, isDigit c = true) ∧
        ParameterCommand.read? (block.dropWhile isIndent) = some (command, free) ∧
        Text.lastWord? free = some name := by
  constructor
  · intro h
    rw [readRest.eq_def] at h
    split at h
    · next s =>
      split at h
      · cases h
      · next _ _ block hblock hne =>
        obtain ⟨⟨command, free⟩, hcommand, h⟩ := Option.bind_eq_some_iff.1 h
        obtain ⟨name, hname, h⟩ := Option.bind_eq_some_iff.1 h
        cases h
        refine ⟨block, free, ?_, hne, fun c hc => List.mem_takeWhile_imp hc, hcommand, hname⟩
        rw [← hblock, List.takeWhile_append_dropWhile]
      · cases h
    · cases h
  · rintro ⟨block, free, rfl, hne, hall, hcommand, hname⟩
    have hcolon : isDigit ':' = false := by decide
    obtain ⟨d, digits, rfl⟩ := List.exists_cons_of_ne_nil hne
    simp only [readRest, Text.takeWhile_span hall hcolon, Text.dropWhile_span hall hcolon,
      hcommand, Option.bind_eq_bind, Option.bind_some, hname]
    rfl

/-- What is read behind a file is a listing. -/
theorem readRest_eq_some_iff :
    readRest s = some (digits, command, name) ↔
      ∃ listing : Listing, listing.WellFormed ∧ s = listing.text ∧ listing.digits = digits ∧
        listing.command = command ∧ listing.name = name := by
  simp only [readRest_eq_some_iff_block, ParameterCommand.read?_eq_some_iff,
    Text.lastWord?_eq_some_iff]
  constructor
  · rintro ⟨block, free, rfl, hne, hall, ⟨hcommand, hblock⟩, front, gap, trail, rfl, hgap, hname,
      htrail⟩
    refine ⟨⟨digits, block.takeWhile isIndent, command, front, gap, name, trail⟩,
      ⟨hne, hall, fun c hc => isIndent_iff.1 (List.mem_takeWhile_imp hc), hcommand, hgap, hname,
        htrail⟩, ?_, rfl, rfl, rfl⟩
    rw [Listing.text, ← hblock, List.takeWhile_append_dropWhile]
  · rintro ⟨listing, h, rfl, rfl, rfl, rfl⟩
    obtain ⟨c, tail, hcommand, hc⟩ := exists_cons_of_command h.command_mem
    have hindent : ∀ c ∈ listing.indent, isIndent c = true :=
      fun c hmem => isIndent_iff.2 (h.indent_of_mem c hmem)
    refine ⟨_, listing.free ++ listing.gap :: (listing.name ++ listing.trail), rfl,
      h.digits_ne_nil, h.isDigit_of_mem, ⟨h.command_mem, ?_⟩, _, _, _, rfl, h.isBlank_gap,
      h.isSolid_name, h.isBlank_of_mem⟩
    rw [hcommand, List.cons_append, Text.dropWhile_span hindent hc]

theorem readRest_text (h : listing.WellFormed) :
    readRest listing.text = some (listing.digits, listing.command, listing.name) :=
  readRest_eq_some_iff.2 ⟨listing, h, rfl, rfl, rfl, rfl⟩

/-- The file of a cut begins with the first character of the line. -/
theorem Splits.exists_cons (h : Splits line file listing) :
    ∃ c front, file = c :: front ∧ line = c :: (front ++ listing.text) := by
  obtain ⟨c, front, rfl⟩ := List.exists_cons_of_ne_nil h.file_ne_nil
  exact ⟨c, front, rfl, h.line_eq⟩

/-- **The longest cut is found.** -/
theorem lastCut?_eq_some_iff {c : Char} {front : Text} :
    Text.lastCut? readRest s = some (front, digits, command, name) ↔
      ∃ listing, Longest (c :: s) (c :: front) listing ∧ listing.digits = digits ∧
        listing.command = command ∧ listing.name = name := by
  rw [Text.lastCut?_eq_some_iff]
  constructor
  · rintro ⟨⟨rest, rfl, hread⟩, hlast⟩
    obtain ⟨listing, hlisting, rfl, hparts⟩ := readRest_eq_some_iff.1 hread
    refine ⟨listing, ⟨⟨rfl, List.cons_ne_nil c front, hlisting⟩, ?_⟩, hparts⟩
    intro other otherListing hother
    obtain ⟨d, longer, rfl, hline⟩ := hother.exists_cons
    by_contra hlt
    have hnone := hlast longer otherListing.text (List.cons.inj hline).2 (by simpa using hlt)
    cases hnone.symm.trans (readRest_text hother.wellFormed)
  · rintro ⟨listing, h, rfl, rfl, rfl⟩
    refine ⟨⟨listing.text, (List.cons.inj h.line_eq).2, readRest_text h.wellFormed⟩, ?_⟩
    rintro longer later rfl hlt
    cases hread : readRest later with
    | none => rfl
    | some parts =>
      obtain ⟨other, hother, rfl, -⟩ := readRest_eq_some_iff.1 hread
      have hle := h.length_le (c :: longer) other ⟨rfl, List.cons_ne_nil c longer, hother⟩
      exact absurd hle (by simpa using hlt)

/-- A line that can be cut has a longest cut. -/
theorem Splits.exists_longest (h : Splits line file listing) :
    ∃ file listing, Longest line file listing := by
  obtain ⟨c, front, rfl, rfl⟩ := h.exists_cons
  cases hcut : Text.lastCut? readRest (front ++ listing.text) with
  | none =>
    have hnone := Text.lastCut?_eq_none_iff.1 hcut front listing.text rfl
    cases hnone.symm.trans (readRest_text h.wellFormed)
  | some cut =>
    obtain ⟨longest, hlongest, -⟩ := lastCut?_eq_some_iff.1 hcut
    exact ⟨_, longest, hlongest⟩

/-- Two longest cuts of a line have the same number. -/
theorem Longest.digits_eq {other : Text} {otherListing : Listing} (h : Longest line file listing)
    (hother : Longest line other otherListing) : listing.digits = otherListing.digits := by
  obtain ⟨c, front, rfl, rfl⟩ := h.toSplits.exists_cons
  obtain ⟨d, longer, rfl, hline⟩ := hother.toSplits.exists_cons
  cases (List.cons.inj hline).1
  have hcut := lastCut?_eq_some_iff.2 ⟨listing, h, rfl, rfl, rfl⟩
  have hcuts := hcut.symm.trans (lastCut?_eq_some_iff.2 ⟨otherListing, hother, rfl, rfl, rfl⟩)
  exact congrArg (fun cut => cut.2.1) (Option.some.inj hcuts)

/-! ### What a line says -/

theorem ofLine?_eq_some_iff : ofLine? line = some block ↔ Lists line block := by
  constructor
  · intro h
    rw [ofLine?.eq_def] at h
    split at h
    · cases h
    · obtain ⟨⟨front, digits, command, name⟩, hcut, h⟩ := Option.bind_eq_some_iff.1 h
      obtain ⟨number, hnumber, h⟩ := Option.bind_eq_some_iff.1 h
      cases h
      obtain ⟨listing, hlongest, rfl, rfl, rfl⟩ := lastCut?_eq_some_iff.1 hcut
      have hlisting := hlongest.wellFormed
      exact ⟨listing, hlongest, (Text.lineNumber?_eq_some_iff_writes hlisting.digits_ne_nil
        hlisting.isDigit_of_mem).1 hnumber, rfl, rfl⟩
  · rintro ⟨listing, hlongest, hnumber, hcommand, hname⟩
    obtain ⟨c, front, hfile, rfl⟩ := hlongest.toSplits.exists_cons
    have hlisting := hlongest.wellFormed
    rw [hfile] at hlongest
    have hcut := lastCut?_eq_some_iff.2 ⟨listing, hlongest, rfl, rfl, rfl⟩
    have hread := (Text.lineNumber?_eq_some_iff_writes hlisting.digits_ne_nil
      hlisting.isDigit_of_mem).2 hnumber
    simp only [ofLine?, hcut, hread, Option.bind_eq_bind, Option.bind_some]
    rw [← hcommand, ← hname, ← hfile]
    rfl

theorem ofLine?_eq_none_iff :
    ofLine? line = none ↔ (¬ ∃ file listing, Splits line file listing) ∨
      ∃ file listing, Longest line file listing ∧
        ¬ ∃ number, Text.Writes listing.digits number := by
  constructor
  · intro hnone
    by_cases hsplits : ∃ file listing, Splits line file listing
    · obtain ⟨file, listing, hsplits⟩ := hsplits
      obtain ⟨file, listing, hlongest⟩ := hsplits.exists_longest
      refine .inr ⟨file, listing, hlongest, ?_⟩
      rintro ⟨number, hnumber⟩
      have hlists : Lists line ⟨file, number, listing.command, listing.name⟩ :=
        ⟨listing, hlongest, hnumber, rfl, rfl⟩
      cases hnone.symm.trans (ofLine?_eq_some_iff.2 hlists)
    · exact .inl hsplits
  · intro h
    cases hread : ofLine? line with
    | none => rfl
    | some block =>
      obtain ⟨listing, hlongest, hnumber, -⟩ := ofLine?_eq_some_iff.1 hread
      rcases h with hsplits | ⟨other, otherListing, hother, hnumberless⟩
      · exact absurd ⟨_, listing, hlongest.toSplits⟩ hsplits
      · rw [hother.digits_eq hlongest] at hnumberless
        exact absurd ⟨_, hnumber⟩ hnumberless

theorem offends_iff :
    Offends line ↔ Text.isBlankLine line = false ∧ ofLine? line = none := by
  rw [ofLine?_eq_none_iff]
  exact ⟨fun h => ⟨h.not_blank, h.unreadable⟩, fun h => ⟨h.1, h.2⟩⟩

theorem firstMalformed_iff {lines : List Text} {place : Nat} :
    FirstMalformed lines place line ↔
      lines[place]? = some line ∧ Offends line ∧ ∀ other ∈ lines.take place, ¬ Offends other := by
  have hearlier : ∀ other : Text, (Text.isBlankLine other = true ∨
      ∃ block, ofLine? other = some block) ↔ ¬ Offends other := by
    intro other
    rw [offends_iff, not_and_or, Bool.not_eq_false, ← ne_eq, Option.ne_none_iff_exists']
  rw [offends_iff]
  constructor
  · rintro ⟨hplace, hblank, hnone, hall⟩
    exact ⟨hplace, ⟨hblank, hnone⟩, fun other hother => (hearlier other).1 (hall other hother)⟩
  · rintro ⟨hplace, ⟨hblank, hnone⟩, hall⟩
    exact ⟨hplace, hblank, hnone, fun other hother => (hearlier other).2 (hall other hother)⟩

/-- The name of a block is the last word of its line. -/
theorem Lists.getLast?_words (h : Lists line block) :
    (Text.words line).getLast? = some block.name := by
  obtain ⟨listing, ⟨⟨hline, -, hlisting⟩, -⟩, -, -, hname⟩ := h
  rw [hline, hname, Listing.text_eq, ← List.append_assoc]
  exact Text.getLast?_words hlisting.isBlank_gap hlisting.isSolid_name hlisting.isBlank_of_mem

/-! ### Blocks in source files -/

/-- The file of a block has an extension that is among those listed, in whatever case. -/
def InSource (extensions : List Text) (block : EmptyBlock) : Prop :=
  ∃ extension, Path.HasExtension ⟨block.file⟩ extension ∧
    ∃ allowed ∈ extensions, Text.lowerCase allowed = '.' :: Text.lowerCase extension

theorem isIn_iff {extensions : List Text} :
    block.isIn extensions = true ↔ InSource extensions block := by
  simp only [InSource, ← Path.extension?_eq_some_iff, isIn]
  cases Path.extension? ⟨block.file⟩ with
  | none => simp
  | some extension => simp [List.mem_map]

instance (extensions : List Text) : DecidablePred (InSource extensions) :=
  fun _ => decidable_of_iff _ isIn_iff

/-- The warning about a block. -/
structure Told (block : EmptyBlock) (warning : Warning) : Prop where
  file_eq : warning.file = block.file
  line_eq : warning.line = block.line
  message_eq : warning.message = "argument '".toList ++ block.name ++ "' of ".toList ++
    block.command ++ " has no description, either add one or remove ".toList ++ block.command

theorem told_iff {warning : Warning} : Told block warning ↔ block.warning = warning := by
  constructor
  · rintro ⟨hfile, hline, hmessage⟩
    cases warning with
    | mk file line message =>
      cases hfile
      cases hline
      cases hmessage
      rfl
  · rintro rfl
    exact ⟨rfl, rfl, rfl⟩

theorem filter_isIn (extensions : List Text) (blocks : List EmptyBlock) :
    blocks.filter (·.isIn extensions) = blocks.filter (InSource extensions ·) :=
  List.filter_congr fun _ _ => by rw [Bool.eq_iff_iff, decide_eq_true_iff, isIn_iff]

/-- What is a source file stays one if extensions are added. -/
theorem InSource.mono {extensions others : List Text} (hsubset : extensions ⊆ others)
    (h : InSource extensions block) : InSource others block := by
  obtain ⟨extension, hextension, allowed, hallowed, hlower⟩ := h
  exact ⟨extension, hextension, allowed, hsubset hallowed, hlower⟩

end EmptyBlock

/-! ### Whole logs -/

namespace Warning

variable {extensions : List Text} {log : Path} {content : Text}

theorem ofEmptyBlockLog_eq_error_iff {failure : Failure} :
    ofEmptyBlockLog extensions log content = .error failure ↔
      EmptyBlock.ofLog log content = .error failure :=
  Except.map_eq_error_iff

theorem ofEmptyBlockLog_eq_ok_iff {warnings : List Warning} :
    ofEmptyBlockLog extensions log content = .ok warnings ↔
      ∃ blocks, EmptyBlock.ofLog log content = .ok blocks ∧
        (blocks.filter (EmptyBlock.InSource extensions ·)).map EmptyBlock.warning = warnings := by
  rw [ofEmptyBlockLog, Except.map_eq_ok_iff]
  simp only [EmptyBlock.filter_isIn]

/-- **What a log of empty blocks says.** It fails if and only if some line should not be in it, and
the failure names the first such line, counted with the blank ones. Otherwise each line that is not
blank says that there is a block, whose name is the last word of the line, and there is a warning
for each block in a source file, in the order of the lines. The extensions have no say in the
failure, and with more of them no warning is lost. -/
theorem ofEmptyBlockLog_reading (extensions : List Text) (log : Path) (content : Text) :
    ((∃ failure, ofEmptyBlockLog extensions log content = .error failure) ↔
        ∃ line ∈ Text.lines content, EmptyBlock.Offends line) ∧
      (∀ failure, ofEmptyBlockLog extensions log content = .error failure ↔
        ∃ place line, (Text.lines content)[place]? = some line ∧ EmptyBlock.Offends line ∧
          (∀ other ∈ (Text.lines content).take place, ¬ EmptyBlock.Offends other) ∧
          failure = .malformedLine log (place + 1) line) ∧
      (∀ warnings, ofEmptyBlockLog extensions log content = .ok warnings →
        ∃ blocks,
          List.Forall₂ (fun line block => EmptyBlock.Lists line block ∧
              (Text.words line).getLast? = some block.name)
            ((Text.lines content).filter (! Text.isBlankLine ·)) blocks ∧
          List.Forall₂ EmptyBlock.Told (blocks.filter (EmptyBlock.InSource extensions ·))
            warnings) ∧
      ∀ others,
        (∀ failure, ofEmptyBlockLog others log content = .error failure ↔
          ofEmptyBlockLog extensions log content = .error failure) ∧
        (extensions ⊆ others → ∀ warnings,
          ofEmptyBlockLog extensions log content = .ok warnings →
            ∃ more, ofEmptyBlockLog others log content = .ok more ∧ warnings.Sublist more) := by
  refine ⟨?_, fun failure => ?_, fun warnings h => ?_, fun others => ⟨fun failure => ?_, ?_⟩⟩
  · simp only [ofEmptyBlockLog_eq_error_iff, EmptyBlock.exists_ofLog_eq_error_iff,
      EmptyBlock.offends_iff]
  · simp only [ofEmptyBlockLog_eq_error_iff, EmptyBlock.ofLog_eq_error_iff,
      EmptyBlock.firstMalformed_iff, and_assoc]
  · obtain ⟨blocks, hblocks, rfl⟩ := ofEmptyBlockLog_eq_ok_iff.1 h
    refine ⟨blocks, (EmptyBlock.ofLog_eq_ok_iff.1 hblocks).imp fun line block hline => ?_, ?_⟩
    · have hlists := EmptyBlock.ofLine?_eq_some_iff.1 hline
      exact ⟨hlists, hlists.getLast?_words⟩
    · rw [List.forall₂_map_right_iff, List.forall₂_same]
      exact fun block _ => EmptyBlock.told_iff.2 rfl
  · rw [ofEmptyBlockLog_eq_error_iff, ofEmptyBlockLog_eq_error_iff]
  · intro hsubset warnings h
    obtain ⟨blocks, hblocks, rfl⟩ := ofEmptyBlockLog_eq_ok_iff.1 h
    refine ⟨_, ofEmptyBlockLog_eq_ok_iff.2 ⟨blocks, hblocks, rfl⟩, List.Sublist.map _ ?_⟩
    refine List.monotone_filter_right _ fun block hblock => ?_
    exact decide_eq_true ((of_decide_eq_true hblock).mono hsubset)

/-- The third line is the first that should not be in the log, and no list of extensions helps. Its
file has no extension at all, and the number behind a shorter file would have been a line number.
Another log lists a block in a source file and one elsewhere. There is one warning, about a block
that a line lists, and with one more extension it is still there. -/
theorem ofEmptyBlockLog_reading_of_foreign_file :
    let log : Path := ⟨"e.log".toList⟩
    let line : Text := "b:2: @param z:99999999999: * @tparam y".toList
    let content : Text := ("a.hpp:1: @param x\n\n" ++
      "b:2: @param z:99999999999: * @tparam y\nno listing\n").toList
    let sound : Text := "src/a.HPP:7:  * @param n\n\nread.md:3: \\tparam T\n".toList
    let warning : Warning := ⟨"src/a.HPP".toList, 7,
      "argument 'n' of @param has no description, either add one or remove @param".toList⟩
    (∀ extensions, ofEmptyBlockLog extensions log content =
        .error (.malformedLine log 3 line)) ∧
      EmptyBlock.Offends line ∧
      ofEmptyBlockLog [".hpp".toList] log sound = .ok [warning] ∧
      (∃ line ∈ Text.lines sound, ∃ block, EmptyBlock.Lists line block ∧
        EmptyBlock.InSource [".hpp".toList] block ∧ EmptyBlock.Told block warning) ∧
      ∃ more, ofEmptyBlockLog [".hpp".toList, ".md".toList] log sound = .ok more ∧
        warning ∈ more := by
  intro log line content sound warning
  have hreading := ofEmptyBlockLog_reading [] log content
  have hfails : ofEmptyBlockLog [] log content = .error (.malformedLine log 3 line) := by
    decide +kernel
  obtain ⟨place, found, -, hoffends, -, hfailure⟩ := (hreading.2.1 _).1 hfails
  cases hfailure
  have hsound : ofEmptyBlockLog [".hpp".toList] log sound = .ok [warning] := by decide +kernel
  obtain ⟨-, -, hwarnings, hothers⟩ := ofEmptyBlockLog_reading [".hpp".toList] log sound
  obtain ⟨blocks, hlists, htold⟩ := hwarnings _ hsound
  obtain ⟨block, hblock, hwarning⟩ := exists_of_forall₂ htold.flip List.mem_cons_self
  obtain ⟨hmem, hsource⟩ := List.mem_filter.1 hblock
  obtain ⟨listing, hlisting, hlisted, -⟩ := exists_of_forall₂ hlists.flip hmem
  obtain ⟨more, hmore, hsublist⟩ := (hothers [".hpp".toList, ".md".toList]).2 (by simp) _ hsound
  exact ⟨fun extensions => ((hreading.2.2.2 extensions).1 _).2 hfails, hoffends, hsound,
    ⟨listing, (List.mem_filter.1 hlisting).1, block, hlisted, of_decide_eq_true hsource, hwarning⟩,
    more, hmore, hsublist.subset List.mem_cons_self⟩

end Warning

end DoxTriage
