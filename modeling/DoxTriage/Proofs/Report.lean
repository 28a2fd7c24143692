import DoxTriage.Proofs.Text.Rows
import DoxTriage.Report
import Mathlib.Data.List.Dedup
import Mathlib.Data.List.Flatten
import Mathlib.Data.List.Perm.Basic
import Mathlib.Data.List.SplitBy

/-!
# The rows of a report

A report is written row by row: a row for the heading, one for each source file, and one for each
record. The sections put the rows in an order, but *which* rows there are can be said without them.
Records are sorted by file first, so the records of one file are in one section, and there are as
many sections as files (`Report.pairwise_files_sections`).

A row is a line of the report if no part of it has a line feed. Numbers have none, collapsing a
headline does not bring one in, and the other parts are what the record has.

## Main definitions

* `Report.rows`: the rows of a report, in order.
* `Record.OneLine`: no part of a record has a line feed.

## Main results

* `Report.rows_perm`: one row for the heading, for each file, and for each record.
* `Report.render_eq_rows`, `Report.not_mem_of_mem_rows`: a report is its rows, and they are lines.
-/

namespace DoxTriage

namespace Report

/-! ### Sections -/

/-- The source file of a section. -/
def sectionFile : List Record → Text
  | [] => []
  | first :: _ => first.file

/-- The records of a section are about one file. -/
theorem file_of_mem_sections {records part : List Record} (h : part ∈ sections records) :
    ∀ record ∈ part, record.file = sectionFile part := by
  have hsame : part.IsChain fun a b : Record => a.file = b.file :=
    (List.isChain_of_mem_splitBy h).imp fun a b hab => of_decide_eq_true hab
  have htrans : Trans (fun a b : Record => a.file = b.file) (fun a b : Record => a.file = b.file)
      fun a b : Record => a.file = b.file := ⟨Eq.trans⟩
  cases part with
  | nil => intro record hrecord; cases hrecord
  | cons first others =>
    intro record hrecord
    rcases List.mem_cons.1 hrecord with rfl | hmem
    · rfl
    · exact (List.rel_of_pairwise_cons hsame.pairwise hmem).symm

theorem flatten_sections_perm (records : List Record) :
    (sections records).flatten.Perm records := by
  rw [sections, List.flatten_splitBy]
  exact List.mergeSort_perm records _

/-- The sections of an ascending list show each record once, and in order. -/
theorem flatten_sections {records : List Record} (h : Ascending Record.toKey records) :
    (sections records).flatten = records := by
  have hsorted : records.Pairwise fun a b => notAfter Record.toKey a b = true := by
    refine h.imp fun {a b} hab => notAfter_iff.2 fun hba => ?_
    exact Key.lt_irrefl _ (Key.lt_trans hab hba)
  rw [sections, List.flatten_splitBy, List.mergeSort_of_pairwise hsorted]

/-- Each file has one section, in the order of the files. -/
theorem pairwise_files_sections (records : List Record) :
    ((sections records).map sectionFile).Pairwise (· < ·) := by
  have hsorted : (sections records).flatten.Pairwise fun a b =>
      notAfter Record.toKey a b = true := by
    rw [sections, List.flatten_splitBy]
    exact pairwise_mergeSort_notAfter records
  obtain ⟨-, hordered⟩ := List.pairwise_flatten.1 hsorted
  have hbreak : (sections records).IsChain fun before after =>
      ∃ hbefore hafter, decide ((before.getLast hbefore).file = (after.head hafter).file) = false :=
    List.isChain_getLast_head_splitBy (fun a b : Record => decide (a.file = b.file)) _
  -- It is enough to compare neighbours, the last record of one section and the first of the next.
  refine List.IsChain.pairwise ((List.isChain_map _).2 (List.isChain_iff_getElem.2 fun i hi => ?_))
  obtain ⟨hbefore, hafter, hne⟩ := hbreak.getElem i hi
  have hnot := List.pairwise_iff_getElem.1 hordered i (i + 1) _ hi (Nat.lt_succ_self i) _
    (List.getLast_mem hbefore) _ (List.head_mem hafter)
  rw [notAfter_iff, Key.lt_iff, not_or] at hnot
  rw [← file_of_mem_sections (List.getElem_mem _) _ (List.getLast_mem hbefore),
    ← file_of_mem_sections (List.getElem_mem _) _ (List.head_mem hafter)]
  by_contra hlt
  exact of_decide_eq_false hne (List.le_antisymm (List.not_lt.1 hnot.1) (List.not_lt.1 hlt))

theorem nodup_files_sections (records : List Record) :
    ((sections records).map sectionFile).Nodup := by
  refine List.nodup_iff_pairwise_ne.2 ((pairwise_files_sections records).imp ?_)
  rintro file _ hlt rfl
  exact List.lt_irrefl file hlt

/-- The sections are about the files of the records, each of them once. -/
theorem files_sections_perm (records : List Record) :
    ((sections records).map sectionFile).Perm (records.map fun record => record.file).dedup := by
  have hnodup := nodup_files_sections records
  refine (List.perm_ext_iff_of_nodup hnodup (List.nodup_dedup _)).2 fun file => ?_
  rw [List.mem_dedup, List.mem_map, List.mem_map]
  constructor
  · rintro ⟨part, hpart, rfl⟩
    obtain ⟨first, hfirst⟩ := List.exists_mem_of_ne_nil part (List.ne_nil_of_mem_splitBy hpart)
    have hmem := List.mem_flatten.2 ⟨part, hpart, hfirst⟩
    exact ⟨first, (flatten_sections_perm records).subset hmem,
      file_of_mem_sections hpart first hfirst⟩
  · rintro ⟨record, hrecord, rfl⟩
    obtain ⟨part, hpart, hmem⟩ :=
      List.mem_flatten.1 ((flatten_sections_perm records).symm.subset hrecord)
    exact ⟨part, hpart, (file_of_mem_sections hpart record hmem).symm⟩

/-! ### Rows -/

/-- The row of the heading. -/
def headingRow (summary : Summary) : Text :=
  "The documentation generated ".toList ++ Text.decimal summary.kept ++
    " unique warnings (total: ".toList ++ Text.decimal summary.total ++
    ", ignored: ".toList ++ Text.decimal summary.ignored ++ "):".toList

/-- The row of a source file. -/
def fileRow (file : Text) : Text :=
  file ++ [':']

/-- The row of a record. -/
def recordRow (separator : Text) (record : Record) : Text :=
  "  line ".toList ++ Text.decimal record.line ++ ": ".toList ++ collapse record.headline ++
    contextText separator record.contexts

/-- The rows of a report, in order. -/
def rows (records : List Record) (summary : Summary) (separator : Text) : List Text :=
  headingRow summary :: (sections records).flatMap fun part =>
    fileRow (sectionFile part) :: part.map (recordRow separator)

theorem heading_eq (summary : Summary) : heading summary = headingRow summary ++ ['\n'] := by
  have hend : "):\n".toList = "):".toList ++ ['\n'] := by decide +kernel
  unfold heading headingRow
  rw [hend, ← List.append_assoc]

theorem sectionText_eq (separator : Text) {part : List Record} (h : part ≠ []) :
    sectionText separator part =
      (fileRow (sectionFile part) :: part.map (recordRow separator)).flatMap (· ++ ['\n']) := by
  cases part with
  | nil => exact absurd rfl h
  | cons first others =>
    have hend : ":\n".toList = [':'] ++ ['\n'] := by decide +kernel
    have hrecords : (first :: others).flatMap (recordLine separator) =
        (first :: others).flatMap fun record => recordRow separator record ++ ['\n'] := rfl
    rw [List.flatMap_cons, List.flatMap_map, sectionText, hend, fileRow, sectionFile, hrecords,
      List.append_assoc, ← List.append_assoc first.file, ← List.append_assoc first.file]

/-- A report on something is its rows, with a line feed after each of them. -/
theorem render_eq_rows {records : List Record} (h : records ≠ []) (summary : Summary)
    (separator : Text) :
    render records summary separator = (rows records summary separator).flatMap (· ++ ['\n']) := by
  have hparts : (sections records).flatMap (sectionText separator) =
      ((sections records).flatMap fun part =>
        fileRow (sectionFile part) :: part.map (recordRow separator)).flatMap (· ++ ['\n']) := by
    rw [List.flatMap_assoc]
    refine List.flatMap_congr fun part hpart => ?_
    exact sectionText_eq separator (List.ne_nil_of_mem_splitBy hpart)
  rw [render, if_neg h, rows, List.flatMap_cons, heading_eq, hparts]

/-- **Which rows there are**: one for the heading, one for each file, and one for each record. -/
theorem rows_perm (records : List Record) (summary : Summary) (separator : Text) :
    (rows records summary separator).Perm
      (headingRow summary :: ((records.map fun record => record.file).dedup.map fileRow ++
        records.map (recordRow separator))) := by
  have hrecords : ((sections records).flatMap fun part => part.map (recordRow separator)).Perm
      (records.map (recordRow separator)) := by
    rw [List.flatMap_def, ← List.map_flatten]
    exact (flatten_sections_perm records).map _
  have hfiles : ((sections records).map fun part => fileRow (sectionFile part)).Perm
      ((records.map fun record => record.file).dedup.map fileRow) := by
    have hmap := (files_sections_perm records).map fileRow
    rwa [List.map_map] at hmap
  have hparts := List.map_append_flatMap_perm (sections records)
    (fun part => fileRow (sectionFile part)) fun part => part.map (recordRow separator)
  exact (hparts.symm.trans (hfiles.append hrecords)).cons _

/-! ### Rows without line feeds -/

theorem not_mem_collapseLine {line : Text} (h : '\n' ∉ line) : '\n' ∉ collapseLine line := by
  have hinside : '\n' ∉ (line.dropWhile (· ≠ '(')).tail := fun hc =>
    h ((List.dropWhile_suffix _).subset (List.mem_of_mem_tail hc))
  rw [collapseLine]
  split
  · simp only [List.mem_append, List.mem_reverse]
    rintro ((hfront | hparentheses) | hback)
    · exact h ((List.takeWhile_prefix _).subset hfront)
    · exact absurd hparentheses (by decide)
    · exact hinside (List.mem_reverse.1 ((List.takeWhile_prefix _).subset hback))
  · exact h

theorem collapse_of_not_mem {line : Text} (h : '\n' ∉ line) :
    collapse line = collapseLine line := by
  rw [collapse, Text.pieces, Text.split_of_not_mem h, List.map_singleton, Text.join_cons,
    List.flatMap_nil, List.append_nil]

theorem not_mem_collapse {headline : Text} (h : '\n' ∉ headline) : '\n' ∉ collapse headline := by
  rw [collapse_of_not_mem h]
  exact not_mem_collapseLine h

theorem not_mem_headingRow (summary : Summary) : '\n' ∉ headingRow summary := by
  have hnumber : ∀ n, '\n' ∉ Text.decimal n := Text.not_mem_decimal (by decide)
  have hfront : '\n' ∉ "The documentation generated ".toList := by decide +kernel
  have htotal : '\n' ∉ " unique warnings (total: ".toList := by decide +kernel
  have hignored : '\n' ∉ ", ignored: ".toList := by decide +kernel
  have hend : '\n' ∉ "):".toList := by decide +kernel
  unfold headingRow
  refine Text.not_mem_append ?_ hend
  refine Text.not_mem_append (Text.not_mem_append ?_ hignored) (hnumber _)
  refine Text.not_mem_append (Text.not_mem_append ?_ htotal) (hnumber _)
  exact Text.not_mem_append hfront (hnumber _)

end Report

/-- No part of a record has a line feed. -/
structure Record.OneLine (record : Record) : Prop where
  file : '\n' ∉ record.file
  headline : '\n' ∉ record.headline
  contexts : ∀ context ∈ record.contexts, '\n' ∉ context

namespace Report

theorem not_mem_contextText {separator : Text} {contexts : List Text}
    (hseparator : '\n' ∉ separator) (h : ∀ context ∈ contexts, '\n' ∉ context) :
    '\n' ∉ contextText separator contexts := by
  have htrim : ∀ context ∈ contexts.map Text.trim, '\n' ∉ context := by
    intro context hcontext
    obtain ⟨original, horiginal, rfl⟩ := List.mem_map.1 hcontext
    exact Text.not_mem_trim (h original horiginal)
  rw [contextText]
  split
  · exact List.not_mem_nil
  · rw [List.mem_append, not_or]
    exact ⟨by decide, Text.not_mem_join hseparator htrim⟩

theorem not_mem_recordRow {separator : Text} {record : Record} (hseparator : '\n' ∉ separator)
    (h : record.OneLine) : '\n' ∉ recordRow separator record := by
  have hnumber : '\n' ∉ Text.decimal record.line := Text.not_mem_decimal (by decide) _
  have hfront : '\n' ∉ "  line ".toList := by decide +kernel
  have hcolon : '\n' ∉ ": ".toList := by decide +kernel
  refine Text.not_mem_append ?_ (not_mem_contextText hseparator h.contexts)
  refine Text.not_mem_append (Text.not_mem_append ?_ hcolon) (not_mem_collapse h.headline)
  exact Text.not_mem_append hfront hnumber

/-- No row of a report has a line feed. -/
theorem not_mem_of_mem_rows {records : List Record} {summary : Summary} {separator : Text}
    (hseparator : '\n' ∉ separator) (h : ∀ record ∈ records, record.OneLine) :
    ∀ row ∈ rows records summary separator, '\n' ∉ row := by
  intro row hrow
  have hmem := (rows_perm records summary separator).subset hrow
  rw [List.mem_cons, List.mem_append, List.mem_map, List.mem_map] at hmem
  rcases hmem with rfl | ⟨file, hfile, rfl⟩ | ⟨record, hrecord, rfl⟩
  · exact not_mem_headingRow summary
  · obtain ⟨record, hrecord, rfl⟩ := List.mem_map.1 (List.mem_dedup.1 hfile)
    simp [fileRow, (h record hrecord).file]
  · exact not_mem_recordRow hseparator (h record hrecord)

end Report

end DoxTriage
