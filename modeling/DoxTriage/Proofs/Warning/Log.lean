import DoxTriage.Proofs.Text.Cut
import DoxTriage.Proofs.Text.Number
import DoxTriage.Proofs.Text.Rows
import DoxTriage.Proofs.Text.Span
import DoxTriage.Warning.Log
import Mathlib.Data.List.Forall2
import Mathlib.Data.List.TakeWhile

/-!
# What a warning log says

A line of the log can often be cut in several ways into a file, a number and a message, because a
message may look like the end of a file name and what follows it. The cut with the shortest file is
the one that counts, and if its number is no line number then the line has no other reading.

The log itself needs no reading order. A record begins in each line whose cut has a line number, and
it takes in the lines after it that go on with it, as many as there are. `StandsAt` says this about
one place in the list of lines, without the lines before it, and a log is read right if its warnings
stand at the places where records begin, one for each and in order.

That no record gets in the way of another one needs a reason. Lines that go on with a record begin
with a blank if with anything, and a line that can be cut begins with the mark.

## Main definitions

* `Warning.Start.Splits`, `Warning.Start.Shortest`: a cut of a line, and the one that counts.
* `Warning.IsStart`, `Warning.Continues`: a line that begins a record, and one that goes on with it.
* `Warning.StandsAt`: a warning is what a log says from one of its lines on.

## Main results

* `Warning.Start.ofLine?_eq_some_iff`: the shortest cut is found.
* `Warning.ofLog_reading`: the warnings of a log are those that stand at its starts.
-/

namespace DoxTriage

namespace Warning

/-! ### Cutting a line -/

namespace Start

/-- A line is the mark, a file, a number and a message, with what stands between them. -/
structure Splits (line : Text) (start : Start) : Prop where
  line_eq : line = mark ++ (start.file ++ ':' :: (start.digits ++ (sign ++ start.message)))
  file_ne_nil : start.file ≠ []
  digits_ne_nil : start.digits ≠ []
  isDigit_of_mem : ∀ c ∈ start.digits, isDigit c = true
  message_ne_nil : start.message ≠ []

/-- Of all cuts of a line, the one with the shortest file. -/
structure Shortest (line : Text) (start : Start) : Prop extends Splits line start where
  length_le : ∀ other, Splits line other → start.file.length ≤ other.file.length

/-- The digits of the start write a line number. -/
structure Numbered (start : Start) (number : Nat) : Prop where
  isDigit_of_mem : ∀ c ∈ start.digits, c.isDigit = true
  value_eq : Nat.ofDigitChars 10 start.digits 0 = number
  lt_lineBound : number < lineBound

variable {line s digits message : Text} {start other : Start}

theorem readRest_eq_some_iff :
    readRest s = some (digits, message) ↔
      s = ':' :: (digits ++ (sign ++ message)) ∧ digits ≠ [] ∧
        (∀ c ∈ digits, isDigit c = true) ∧ message ≠ [] := by
  constructor
  · intro h
    rw [readRest.eq_def] at h
    split at h
    · next s =>
      dsimp only at h
      split at h
      · next rest hsign =>
        split at h
        · cases h
        · next hne =>
          cases h
          rw [not_or] at hne
          have hrest := List.isPrefixOf?_eq_some_iff_append_eq.1 hsign
          refine ⟨?_, hne.1, fun c hc => List.mem_takeWhile_imp hc, hne.2⟩
          rw [hrest, List.takeWhile_append_dropWhile]
      · cases h
    · cases h
  · rintro ⟨rfl, hdigits, hall, hmessage⟩
    have hcolon : isDigit ':' = false := by decide
    -- the sign begins with a colon, which ends the digits
    have hword : digits ++ (sign ++ message) = digits ++ ':' :: (sign.tail ++ message) := rfl
    have htake : (digits ++ (sign ++ message)).takeWhile isDigit = digits := by
      rw [hword, Text.takeWhile_span hall hcolon]
    have hdrop : (digits ++ (sign ++ message)).dropWhile isDigit = sign ++ message := by
      rw [hword, Text.dropWhile_span hall hcolon]
      rfl
    simp only [readRest, htake, hdrop, List.isPrefixOf?_eq_some_iff_append_eq.2 rfl]
    exact if_neg (not_or.2 ⟨hdigits, hmessage⟩)

/-- A cut of a line is a place after the first character of the file where the rest can be read. -/
theorem splits_iff {c : Char} {front : Text} :
    Splits (mark ++ c :: s) ⟨c :: front, digits, message⟩ ↔
      ∃ rest, s = front ++ rest ∧ readRest rest = some (digits, message) := by
  constructor
  · intro h
    have hs := List.append_cancel_left h.line_eq
    exact ⟨_, (List.cons.inj hs).2, readRest_eq_some_iff.2
      ⟨rfl, h.digits_ne_nil, h.isDigit_of_mem, h.message_ne_nil⟩⟩
  · rintro ⟨rest, rfl, hread⟩
    obtain ⟨rfl, hdigits, hall, hmessage⟩ := readRest_eq_some_iff.1 hread
    exact ⟨rfl, List.cons_ne_nil c front, hdigits, hall, hmessage⟩

/-- A line that can be cut begins with the mark and has something after it. -/
theorem Splits.exists_cons (h : Splits line start) :
    ∃ c s front, line = mark ++ c :: s ∧ start = ⟨c :: front, start.digits, start.message⟩ := by
  obtain ⟨c, front, hfile⟩ := List.exists_cons_of_ne_nil h.file_ne_nil
  have hline := h.line_eq
  rw [hfile] at hline
  exact ⟨c, _, front, hline, by rw [← hfile]⟩

theorem ofLine?_mark_cons (c : Char) (s : Text) :
    ofLine? (mark ++ c :: s) =
      (Text.firstCut? readRest s).map fun cut => ⟨c :: cut.1, cut.2.1, cut.2.2⟩ := by
  rw [ofLine?, List.isPrefixOf?_eq_some_iff_append_eq.2 rfl]

theorem exists_cons_of_ofLine? (h : ofLine? line = some start) : ∃ c s, line = mark ++ c :: s := by
  rw [ofLine?] at h
  split at h
  · next c s hs => exact ⟨c, s, (List.isPrefixOf?_eq_some_iff_append_eq.1 hs).symm⟩
  · cases h

/-- **The shortest cut is found.** -/
theorem ofLine?_eq_some_iff : ofLine? line = some start ↔ Shortest line start := by
  constructor
  · intro h
    obtain ⟨c, s, rfl⟩ := exists_cons_of_ofLine? h
    rw [ofLine?_mark_cons] at h
    obtain ⟨⟨front, digits, message⟩, hcut, rfl⟩ := Option.map_eq_some_iff.1 h
    obtain ⟨hread, hfirst⟩ := Text.firstCut?_eq_some_iff.1 hcut
    refine ⟨splits_iff.2 hread, fun other hother => ?_⟩
    obtain ⟨d, t, back, hline, hsplit⟩ := hother.exists_cons
    cases List.append_cancel_left hline
    rw [hsplit] at hother
    obtain ⟨rest, hs, hrest⟩ := splits_iff.1 hother
    by_contra hlt
    rw [hsplit] at hlt
    have hnone := hfirst back rest hs (by simpa using hlt)
    cases hrest.symm.trans hnone
  · intro h
    obtain ⟨c, s, front, rfl, hstart⟩ := h.exists_cons
    have hsplits := h.toSplits
    have hshort := h.length_le
    rw [hstart] at hsplits hshort ⊢
    have hcut : Text.firstCut? readRest s = some (front, start.digits, start.message) := by
      refine Text.firstCut?_eq_some_iff.2 ⟨splits_iff.1 hsplits, fun earlier later hs hlt => ?_⟩
      cases hread : readRest later with
      | none => rfl
      | some parts =>
        have hle := hshort ⟨c :: earlier, parts.1, parts.2⟩ (splits_iff.2 ⟨later, hs, hread⟩)
        exact absurd hle (by simpa using hlt)
    rw [ofLine?_mark_cons, hcut]
    rfl

/-- A line has one shortest cut at most. -/
theorem Shortest.unique (h : Shortest line start) (hother : Shortest line other) :
    start = other :=
  Option.some.inj ((ofLine?_eq_some_iff.2 h).symm.trans (ofLine?_eq_some_iff.2 hother))

/-- The number that is read from the digits of a cut is the one that they write. -/
theorem lineNumber?_eq_some_iff (h : Splits line start) {number : Nat} :
    Text.lineNumber? start.digits = some number ↔ start.Numbered number := by
  rw [Text.lineNumber?_eq_some_iff_writes h.digits_ne_nil h.isDigit_of_mem]
  exact ⟨fun ⟨hall, hvalue, hlt⟩ => ⟨hall, hvalue, hlt⟩,
    fun ⟨hall, hvalue, hlt⟩ => ⟨hall, hvalue, hlt⟩⟩

end Start

/-! ### Kinds of lines -/

/-- The line begins a record. -/
def IsStart (line : Text) : Prop :=
  ∃ start number, Start.Shortest line start ∧ start.Numbered number

/-- The line goes on with the record before it: it is empty, or a blank comes first. -/
def Continues (line : Text) : Prop :=
  line = [] ∨ ∃ c s, line = c :: s ∧ isBlank c = true

theorem isContinuation_iff {line : Text} : isContinuation line = true ↔ Continues line := by
  cases line with
  | nil => exact iff_of_true rfl (.inl rfl)
  | cons c s => simp [isContinuation, Continues]

theorem not_continues_of_shortest {line : Text} {start : Start} (h : Start.Shortest line start) :
    ¬ Continues line := by
  intro hcontinues
  have hnone := Start.ofLine?_eq_none_of_isContinuation (isContinuation_iff.2 hcontinues)
  cases hnone.symm.trans (Start.ofLine?_eq_some_iff.2 h)

theorem not_isStart_of_continues {line : Text} (h : Continues line) : ¬ IsStart line := by
  rintro ⟨start, number, hstart, -⟩
  exact not_continues_of_shortest hstart h

/-! ### Records in a log -/

/-- From one of its lines on, a log says this: the line begins a record, the lines taken in are all
that go on with it, and the message has each of them on a line of its own. -/
inductive StandsAt (lines : List Text) (place : Nat) (taken : List Text) (warning : Warning) : Prop
  | intro {line : Text} {rest : List Text} {start : Start}
    (hlines : lines.drop place = line :: (taken ++ rest)) (hstart : Start.Shortest line start)
    (hnumber : start.Numbered warning.line) (hfile : warning.file = start.file)
    (htaken : ∀ later ∈ taken, Continues later)
    (hrest : ∀ later ∈ rest.head?, ¬ Continues later)
    (hmessage : warning.message = start.message ++ taken.flatMap ('\n' :: ·))

theorem standsAt_succ {line : Text} {lines : List Text} {place : Nat} {taken : List Text}
    {warning : Warning} :
    StandsAt (line :: lines) (place + 1) taken warning ↔ StandsAt lines place taken warning := by
  constructor
  · rintro ⟨hlines, hstart, hnumber, hfile, htaken, hrest, hmessage⟩
    exact ⟨hlines, hstart, hnumber, hfile, htaken, hrest, hmessage⟩
  · rintro ⟨hlines, hstart, hnumber, hfile, htaken, hrest, hmessage⟩
    exact ⟨hlines, hstart, hnumber, hfile, htaken, hrest, hmessage⟩

theorem ofRecord?_eq_some_iff {line : Text} {later : List Text} {warning : Warning} :
    ofRecord? line later = some warning ↔
      ∃ start, Start.Shortest line start ∧ start.Numbered warning.line ∧
        warning.file = start.file ∧
        warning.message = start.message ++
          (later.takeWhile isContinuation).flatMap ('\n' :: ·) := by
  simp only [ofRecord?, Option.bind_eq_bind, Option.bind_eq_some_iff, Start.ofLine?_eq_some_iff,
    Text.join_cons, List.singleton_append]
  refine exists_congr fun start => and_congr_right fun hstart => ?_
  simp only [Start.lineNumber?_eq_some_iff hstart.toSplits]
  constructor
  · rintro ⟨number, hnumber, hwarning⟩
    cases hwarning
    exact ⟨hnumber, rfl, rfl⟩
  · rintro ⟨hnumber, hfile, hmessage⟩
    refine ⟨warning.line, hnumber, ?_⟩
    rw [← hfile, ← hmessage]
    rfl

/-- What is read from the first line of a log on stands there. -/
theorem standsAt_zero {line : Text} {later : List Text} {warning : Warning}
    (h : ofRecord? line later = some warning) :
    StandsAt (line :: later) 0 (later.takeWhile isContinuation) warning := by
  obtain ⟨start, hstart, hnumber, hfile, hmessage⟩ := ofRecord?_eq_some_iff.1 h
  have hlines : (line :: later).drop 0 =
      line :: (later.takeWhile isContinuation ++ later.dropWhile isContinuation) := by
    rw [List.takeWhile_append_dropWhile]
    rfl
  refine .intro hlines hstart hnumber hfile ?_ ?_ hmessage
  · intro next hnext
    exact isContinuation_iff.1 (List.mem_takeWhile_imp hnext)
  · intro next hnext
    have hfirst := List.head?_dropWhile_not isContinuation later
    rw [Option.mem_def.1 hnext] at hfirst
    rw [← isContinuation_iff, hfirst]
    exact Bool.false_ne_true

theorem exists_ofRecord?_iff {line : Text} (later : List Text) :
    (∃ warning, ofRecord? line later = some warning) ↔ IsStart line := by
  simp only [ofRecord?_eq_some_iff]
  constructor
  · rintro ⟨warning, start, hstart, hnumber, -⟩
    exact ⟨start, warning.line, hstart, hnumber⟩
  · rintro ⟨start, number, hstart, hnumber⟩
    exact ⟨⟨start.file, number, _⟩, start, hstart, hnumber, rfl, rfl⟩

/-- The warnings of a list of lines stand at its starts. The induction is on the lines, and each
line more moves the places of the others by one. -/
theorem ofLines_reading (lines : List Text) :
    ∃ places : List Nat, places.Pairwise (· < ·) ∧
      (∀ place, place ∈ places ↔ ∃ line, lines[place]? = some line ∧ IsStart line) ∧
      List.Forall₂ (fun place warning => ∃ taken, StandsAt lines place taken warning) places
        (ofLines lines) := by
  induction lines with
  | nil => exact ⟨[], List.Pairwise.nil, by simp, List.Forall₂.nil⟩
  | cons line later ih =>
    obtain ⟨places, hascending, hmem, hstands⟩ := ih
    have hmoved : (places.map (· + 1)).Pairwise (· < ·) :=
      List.pairwise_map.2 (hascending.imp fun hlt => Nat.succ_lt_succ hlt)
    have hlater : List.Forall₂ (fun place warning => ∃ taken,
        StandsAt (line :: later) place taken warning) (places.map (· + 1)) (ofLines later) := by
      rw [List.forall₂_map_left_iff]
      exact hstands.imp fun place warning ⟨taken, h⟩ => ⟨taken, standsAt_succ.2 h⟩
    cases hrecord : ofRecord? line later with
    | none =>
      refine ⟨places.map (· + 1), hmoved, fun place => ?_, ?_⟩
      · cases place with
        | zero =>
          have hno : ¬ IsStart line := by
            rw [← exists_ofRecord?_iff later, hrecord]
            simp
          simp [hno]
        | succ place => simp [hmem]
      · rw [ofLines, hrecord]
        exact hlater
    | some warning =>
      have hstart : IsStart line := (exists_ofRecord?_iff later).1 ⟨warning, hrecord⟩
      refine ⟨0 :: places.map (· + 1), ?_, fun place => ?_, ?_⟩
      · refine List.pairwise_cons.2 ⟨fun place hplace => ?_, hmoved⟩
        obtain ⟨before, -, rfl⟩ := List.mem_map.1 hplace
        exact Nat.succ_pos before
      · cases place with
        | zero => simp [hstart]
        | succ place => simp [hmem]
      · rw [ofLines, hrecord]
        exact .cons ⟨_, standsAt_zero hrecord⟩ hlater

/-! ### Lines that belong to no record -/

section Apart

variable {lines : List Text} {place other : Nat} {line : Text} {run rest taken : List Text}

theorem getElem?_of_drop_eq (h : lines.drop place = line :: rest) (n : Nat) :
    lines[place + n]? = (line :: rest)[n]? := by
  rw [← h, List.getElem?_drop]

/-- After the line at a place, the lines of a run go on. -/
theorem continues_of_run (h : lines.drop place = line :: (run ++ rest))
    (hrun : ∀ later ∈ run, Continues later) (hlt : place < other)
    (hle : other ≤ place + run.length) {found : Text} (hfound : lines[other]? = some found) :
    Continues found := by
  obtain ⟨n, rfl⟩ := Nat.exists_eq_add_of_lt hlt
  have hn : n < run.length := by omega
  rw [Nat.add_assoc, getElem?_of_drop_eq h, List.getElem?_cons_succ,
    List.getElem?_append_left hn] at hfound
  exact hrun found (List.mem_of_getElem? hfound)

/-- A line whose number cannot be read stands apart from all records, with what goes on after it. -/
theorem apart_of_not_numbered {start : Start} (hlines : lines.drop place = line :: (run ++ rest))
    (hstart : Start.Shortest line start) (hnone : ¬ ∃ number, start.Numbered number)
    (hrun : ∀ later ∈ run, Continues later) {warning : Warning}
    (hstands : StandsAt lines other taken warning) :
    other + taken.length < place ∨ place + run.length < other := by
  obtain ⟨hother, hopens, hnumber, -, htaken, -, -⟩ := hstands
  by_contra hmeets
  rw [not_or, Nat.not_lt, Nat.not_lt] at hmeets
  obtain ⟨hbefore, hafter⟩ := hmeets
  have hhere := getElem?_of_drop_eq hlines 0
  have hthere := getElem?_of_drop_eq hother 0
  rcases Nat.lt_trichotomy place other with hlt | rfl | hlt
  · exact not_continues_of_shortest hopens (continues_of_run hlines hrun hlt hafter hthere)
  · cases hhere.symm.trans hthere
    exact hnone ⟨warning.line, hstart.unique hopens ▸ hnumber⟩
  · exact not_continues_of_shortest hstart (continues_of_run hother htaken hlt hbefore hhere)

end Apart

/-! ### Whole logs -/

/-- **What a warning log says.** Its warnings stand at the lines that begin records, one at each of
them and in order. No line that is taken in begins a record. A line whose shortest cut has no line
number is no part of any record, and neither are the lines that go on after it. -/
theorem ofLog_reading (content : Text) :
    (∃ places : List Nat, places.Pairwise (· < ·) ∧
      (∀ place, place ∈ places ↔ ∃ line, (Text.lines content)[place]? = some line ∧ IsStart line) ∧
      List.Forall₂ (fun place warning => ∃ taken,
        StandsAt (Text.lines content) place taken warning) places (ofLog content)) ∧
      (∀ place taken warning, StandsAt (Text.lines content) place taken warning →
        ∀ line ∈ taken, ¬ IsStart line) ∧
      ∀ place line start run rest,
        (Text.lines content).drop place = line :: (run ++ rest) → Start.Shortest line start →
          (¬ ∃ number, start.Numbered number) → (∀ later ∈ run, Continues later) →
            ∀ other taken warning, StandsAt (Text.lines content) other taken warning →
              other + taken.length < place ∨ place + run.length < other := by
  refine ⟨ofLines_reading _, ?_, ?_⟩
  · rintro place taken warning ⟨-, -, -, -, htaken, -, -⟩ line hline
    exact not_isStart_of_continues (htaken line hline)
  · intro place line start run rest hlines hstart hnone hrun other taken warning hstands
    exact apart_of_not_numbered hlines hstart hnone hrun hstands

/-- Two records between lines of other kinds. The first file ends at the second number, because a
message follows only there, and the second file begins with a colon, because it cannot be empty. The
line between them has a second cut whose number could be read. -/
theorem ofLog_reading_of_ambiguous_lines :
    let first : Warning := ⟨"a:1".toList, 2, "m: 3: warning: x\n\n  more".toList⟩
    let second : Warning := ⟨":8: warning: z".toList, 9, "w".toList⟩
    let content : Text := ("junk\n  stray\ndoxygen:a:1:2: warning: m: 3: warning: x\n\n  more\n" ++
      "doxygen:b:99999999999: warning: c:5: warning: y\n  lost\ndoxygen:d:7: warning: \n" ++
      "doxygen::8: warning: z:9: warning: w").toList
    ofLog content = [first, second] ∧
      (∃ place later : Nat, place < later ∧
        (∃ taken, StandsAt (Text.lines content) place taken first) ∧
        (∃ taken, StandsAt (Text.lines content) later taken second) ∧
        ∀ other, other = place ∨ other = later ↔
          ∃ line, (Text.lines content)[other]? = some line ∧ IsStart line) ∧
      ∀ other taken warning, StandsAt (Text.lines content) other taken warning →
        other + taken.length < 5 ∨ 6 < other := by
  intro first second content
  have hread : ofLog content = [first, second] := by decide +kernel
  obtain ⟨⟨places, hascending, hmem, hstands⟩, -, hapart⟩ := ofLog_reading content
  rw [hread] at hstands
  obtain ⟨place, others, hfirst, hothers, rfl⟩ := List.forall₂_cons_right_iff.1 hstands
  obtain ⟨later, rest, hsecond, hrest, rfl⟩ := List.forall₂_cons_right_iff.1 hothers
  obtain rfl := List.forall₂_nil_right_iff.1 hrest
  have hlt := List.rel_of_pairwise_cons hascending (List.mem_singleton.2 rfl)
  refine ⟨hread, ⟨place, later, hlt, hfirst, hsecond, fun other => ?_⟩, ?_⟩
  · rw [← hmem]
    simp
  · let start : Start := ⟨"b".toList, "99999999999".toList, "c:5: warning: y".toList⟩
    have hcut : Start.ofLine? "doxygen:b:99999999999: warning: c:5: warning: y".toList =
        some start := by decide +kernel
    have hstart := Start.ofLine?_eq_some_iff.1 hcut
    have hnumber : Text.lineNumber? start.digits = none := by decide +kernel
    refine hapart 5 _ start ["  lost".toList] ["doxygen:d:7: warning: ".toList,
      "doxygen::8: warning: z:9: warning: w".toList] (by decide +kernel) hstart ?_ ?_
    · rintro ⟨number, hnumbered⟩
      rw [(Start.lineNumber?_eq_some_iff hstart.toSplits).2 hnumbered] at hnumber
      cases hnumber
    · intro later hlater
      rw [List.mem_singleton.1 hlater]
      exact isContinuation_iff.1 (by decide +kernel)

end Warning

end DoxTriage
