import DoxTriage.Proofs.Report
import DoxTriage.Proofs.Rule.EmptyBlock
import DoxTriage.Proofs.SourceName
import DoxTriage.Proofs.Triage.Accounting
import DoxTriage.Proofs.Warning.Log

/-!
# The rows of the report of a triage

What stands in a log is written into the report: paths, headlines and contexts. None of it can begin
a new line there. A log is cut into lines before anything is read from it, so no path and no first
line of a message has a line feed; the contexts are cut at line feeds; and the ledger, which takes
the end of a path for the name of its file and merges records, brings none in.

So the lines of a report are known: one heading, one line for each file, and one for each record,
whatever the logs say. Only the separator between contexts comes from somewhere else.

## Main results

* `Record.oneLine_of_collects`: a record of warnings from logs has no line feeds.
* `Workspace.report_lined`: the lines of a report.
-/

namespace DoxTriage

/-! ### Files without line feeds -/

namespace Text

/-- A line has no line feed. -/
theorem not_mem_of_mem_lines {content line : Text} (h : line ∈ lines content) : '\n' ∉ line := by
  rcases List.mem_append.1 h with hfull | hlast
  · obtain ⟨piece, hpiece, rfl⟩ := List.mem_map.1 hfull
    exact not_mem_dropReturn (not_mem_of_mem_split (List.mem_of_mem_dropLast hpiece))
  · have hpiece := Option.mem_toList.1 (List.mem_filter.1 hlast).1
    exact not_mem_of_mem_split (List.mem_of_getLast? hpiece)

end Text

namespace Warning

/-- The file of a record is part of the line that it starts in. -/
theorem file_subset_of_ofRecord? {line : Text} {later : List Text} {warning : Warning}
    (h : ofRecord? line later = some warning) : warning.file ⊆ line := by
  obtain ⟨start, hstart, h⟩ := Option.bind_eq_some_iff.1 h
  obtain ⟨number, -, h⟩ := Option.bind_eq_some_iff.1 h
  cases h
  rw [(Start.ofLine?_eq_some_iff.1 hstart).line_eq]
  exact List.subset_append_of_subset_right _ (List.subset_append_left _ _)

theorem exists_of_mem_ofLines {lines : List Text} {warning : Warning}
    (h : warning ∈ ofLines lines) :
    ∃ line ∈ lines, ∃ later, ofRecord? line later = some warning := by
  induction lines with
  | nil => cases h
  | cons line later ih =>
    rcases List.mem_append.1 h with hfirst | hlater
    · exact ⟨line, List.mem_cons_self .., later, Option.mem_toList.1 hfirst⟩
    · obtain ⟨other, hother, hrecord⟩ := ih hlater
      exact ⟨other, List.mem_cons_of_mem _ hother, hrecord⟩

theorem not_mem_file_of_mem_ofLog {content : Text} {warning : Warning}
    (h : warning ∈ ofLog content) : '\n' ∉ warning.file := by
  obtain ⟨line, hline, later, hrecord⟩ := exists_of_mem_ofLines h
  exact fun hc => Text.not_mem_of_mem_lines hline (file_subset_of_ofRecord? hrecord hc)

/-- No context of a warning has a line feed. -/
theorem not_mem_of_mem_context {warning : Warning} {context : Text}
    (h : context ∈ warning.context) : '\n' ∉ context := by
  obtain ⟨piece, hpiece, rfl⟩ := List.mem_map.1 (List.mem_filter.1 h).1
  exact Text.not_mem_trim (Text.not_mem_of_mem_split (List.mem_of_mem_tail hpiece))

end Warning

namespace EmptyBlock

/-- The file of a block is part of the line that lists it. -/
theorem file_subset_of_ofLine? {line : Text} {block : EmptyBlock} (h : ofLine? line = some block) :
    block.file ⊆ line := by
  unfold ofLine? at h
  split at h
  · cases h
  · next c s =>
    obtain ⟨⟨front, digits, command, name⟩, hcut, h⟩ := Option.bind_eq_some_iff.1 h
    obtain ⟨number, -, h⟩ := Option.bind_eq_some_iff.1 h
    cases h
    obtain ⟨rest, rfl, -⟩ := Text.lastCut?_eq_some hcut
    exact List.cons_subset_cons c (List.subset_append_left front rest)

theorem not_mem_file_of_mem_ofLog {log : Path} {content : Text} {blocks : List EmptyBlock}
    (h : ofLog log content = .ok blocks) {block : EmptyBlock} (hmem : block ∈ blocks) :
    '\n' ∉ block.file := by
  obtain ⟨⟨line, number⟩, hnumbered, hread⟩ := exists_of_mem_mapM h hmem
  have hline : line ∈ Text.lines content :=
    List.fst_mem_of_mem_zipIdx (List.mem_filter.1 hnumbered).1
  unfold ofNumberedLine at hread
  split at hread
  · next hblock =>
    cases hread
    exact fun hc => Text.not_mem_of_mem_lines hline (file_subset_of_ofLine? hblock hc)
  · cases hread

end EmptyBlock

theorem Warning.not_mem_file_of_mem_ofEmptyBlockLog {extensions : List Text} {log : Path}
    {content : Text} {warnings : List Warning}
    (h : ofEmptyBlockLog extensions log content = .ok warnings) {warning : Warning}
    (hmem : warning ∈ warnings) : '\n' ∉ warning.file := by
  obtain ⟨blocks, hblocks, rfl⟩ := Except.map_eq_ok_iff.1 h
  obtain ⟨block, hblock, rfl⟩ := List.mem_map.1 hmem
  exact EmptyBlock.not_mem_file_of_mem_ofLog hblocks (List.mem_filter.1 hblock).1

/-- The record of warnings about files without line feeds has none in any of its parts. -/
theorem Record.oneLine_of_collects {marker : Text} {warnings : List Warning} {record : Record}
    (h : record.Collects marker warnings) (hfiles : ∀ warning ∈ warnings, '\n' ∉ warning.file) :
    record.OneLine := by
  obtain ⟨warning, hwarning, hkey⟩ := List.mem_map.1 h.key_mem
  refine ⟨?_, ?_, fun context hcontext => ?_⟩
  · rw [← hkey]
    exact fun hc => hfiles warning hwarning ((sourceName_suffix marker warning.file).subset hc)
  · rw [← hkey]
    exact warning.not_mem_headline
  · obtain ⟨occurrence, -, -, hoccurs⟩ := (h.mem_contexts context).1 hcontext
    exact Warning.not_mem_of_mem_context hoccurs

/-! ### The lines of a report -/

namespace Triage

/-- The report is the heading, one line for each file and one for each record, each with a line feed
after it and with none before. -/
structure Lined (triage : Triage) (kept : List Record) (separator : Text) : Prop where
  getLast?_eq : triage.report.getLast? = some '\n'
  count_eq : triage.report.count '\n' =
    1 + (kept.map fun record => record.file).toFinset.card + triage.summary.kept
  pieces_eq : Text.pieces triage.report = Report.rows kept triage.summary separator ++ [[]]
  rows_perm : (Report.rows kept triage.summary separator).Perm
    (Report.headingRow triage.summary ::
      ((kept.map fun record => record.file).dedup.map Report.fileRow ++
        kept.map (Report.recordRow separator)))

/-- The accounts leave one choice for what is left. -/
theorem Accounts.kept_unique {disk : Disk} {settings : Settings} {origin : SymbolIndex}
    {warnings : List Warning} {kept others : List Record} {triage other : Triage}
    (h : Accounts disk settings origin warnings kept triage)
    (hother : Accounts disk settings origin warnings others other) : kept = others :=
  h.ascending.eq_of_mem_iff hother.ascending fun record =>
    (h.mem_kept record).trans (hother.mem_kept record).symm

theorem Accounts.lined {disk : Disk} {settings : Settings} {origin : SymbolIndex}
    {warnings : List Warning} {kept : List Record} {triage : Triage}
    (h : Accounts disk settings origin warnings kept triage)
    (hfiles : ∀ warning ∈ warnings, '\n' ∉ warning.file) (hkept : triage.summary.kept ≠ 0)
    (hseparator : '\n' ∉ settings.separator) : triage.Lined kept settings.separator := by
  have hrecords : ∀ record ∈ kept, record.OneLine := fun record hrecord =>
    Record.oneLine_of_collects ((h.mem_kept record).1 hrecord).1 hfiles
  have hne : kept ≠ [] := by
    rintro rfl
    exact hkept h.kept_eq
  have hreport := h.report_eq.trans (Report.render_eq_rows hne triage.summary settings.separator)
  have hrows : ∀ row ∈ Report.rows kept triage.summary settings.separator, '\n' ∉ row :=
    Report.not_mem_of_mem_rows hseparator hrecords
  have hperm := Report.rows_perm kept triage.summary settings.separator
  refine ⟨?_, ?_, ?_, hperm⟩
  · rw [hreport]
    exact Text.getLast?_rows (List.cons_ne_nil _ _)
  · rw [hreport, Text.count_newline_rows hrows, hperm.length_eq, List.length_cons,
      List.length_append, List.length_map, List.length_map, h.kept_eq, List.card_toFinset]
    omega
  · rw [hreport]
    exact Text.pieces_rows hrows

end Triage

namespace Workspace

/-- **The lines of a report.** A triage that leaves something has read the three logs, and whatever
stands in them, the lines of its report are the heading, one line for each file, and one line for
each record that is left. -/
theorem report_lined {disk : Disk} {workspace : Workspace} {triage : Triage}
    (h : workspace.triage disk = .ok triage) (hkept : triage.summary.kept ≠ 0)
    (hseparator : '\n' ∉ workspace.settings.separator) :
    ∃ documentLog log emptyBlockLog described kept,
      disk.readInput workspace.documentLog = .ok documentLog ∧
      disk.readInput workspace.warningLog = .ok log ∧
      disk.readInput workspace.emptyBlockLog = .ok emptyBlockLog ∧
      Warning.ofEmptyBlockLog workspace.settings.extensions workspace.emptyBlockLog
        emptyBlockLog = .ok described ∧
      Triage.Accounts disk workspace.settings (workspace.index (workspace.documents documentLog))
        (Warning.ofLog log ++ described) kept triage ∧
      triage.Lined kept workspace.settings.separator := by
  obtain ⟨documentLog, hdocuments, log, hlog, emptyBlockLog, hempty, described, hdescribed, kept,
    hretain, rfl⟩ := triage_eq_ok_iff.1 h
  have haccounts := Triage.accounts_of_retain rfl hretain
  have hfiles : ∀ warning ∈ Warning.ofLog log ++ described, '\n' ∉ warning.file := by
    intro warning hwarning
    rcases List.mem_append.1 hwarning with hlogged | hblock
    · exact Warning.not_mem_file_of_mem_ofLog hlogged
    · exact Warning.not_mem_file_of_mem_ofEmptyBlockLog hdescribed hblock
  exact ⟨documentLog, log, emptyBlockLog, described, kept, hdocuments, hlog, hempty, hdescribed,
    haccounts, haccounts.lined hfiles hkept hseparator⟩

/-- A carriage return in a file name, a line separator that is no line feed, and two headlines that
are one text once their parentheses are collapsed: three records of two files make six lines. -/
theorem report_lined_of_odd_characters :
    let file : Text := "src/f\r.hpp".toList
    let log : Text := ("doxygen:/ci/src/f\r.hpp:5: warning: bad f(int)\r\n" ++
      "\u2028in x.hpp\r\ndoxygen:/ci/src/f\r.hpp:5: warning: bad f(char)\n").toList
    let emptyBlockLog : Text := "/ci/src/a.hpp:3: * @param b\n".toList
    let undescribed : Text :=
      "argument 'b' of @param has no description, either add one or remove @param".toList
    let warnings : List Warning := [
      ⟨"/ci/src/f\r.hpp".toList, 5, "bad f(int)\n\u2028in x.hpp".toList⟩,
      ⟨"/ci/src/f\r.hpp".toList, 5, "bad f(char)".toList⟩,
      ⟨"/ci/src/a.hpp".toList, 3, undescribed⟩]
    let workspace : Workspace := ⟨⟨"b".toList⟩, {}⟩
    let disk := (((⟨fun _ => none, []⟩ : Disk).put workspace.documentLog (.file [])).put
      workspace.warningLog (.file log)).put workspace.emptyBlockLog (.file emptyBlockLog)
    let kept : List Record := [⟨⟨"src/a.hpp".toList, 3, undescribed⟩, []⟩,
      ⟨⟨file, 5, "bad f(char)".toList⟩, []⟩,
      ⟨⟨file, 5, "bad f(int)".toList⟩, ["in x.hpp".toList]⟩]
    let triage := Triage.of workspace.settings.separator
      (Ledger.ofWarnings workspace.settings.marker warnings) kept
    workspace.triage disk = .ok triage ∧ triage.summary.kept ≠ 0 ∧
      '\n' ∉ workspace.settings.separator ∧ (∀ record ∈ kept.tail,
        Report.collapse record.headline = "bad f()".toList) ∧
      triage.report.count '\n' = 6 ∧ triage.Lined kept workspace.settings.separator := by
  intro file log emptyBlockLog undescribed warnings workspace disk kept triage
  have hlogged : Warning.ofLog log = warnings.take 2 := by decide +kernel
  have hdescribed : Warning.ofEmptyBlockLog workspace.settings.extensions workspace.emptyBlockLog
      emptyBlockLog = .ok (warnings.drop 2) := by decide +kernel
  -- This spares the evaluation of the sort.
  have hrecords := Ledger.records_of_pairwise
    (Ledger.ofWarnings workspace.settings.marker warnings) (by decide +kernel)
  have hdocuments : disk.readInput workspace.documentLog = .ok [] := by decide +kernel
  have hlog : disk.readInput workspace.warningLog = .ok log := by decide +kernel
  have hempty : disk.readInput workspace.emptyBlockLog = .ok emptyBlockLog := by decide +kernel
  have hretain : (Rule.retain disk Rule.all
      (Ledger.ofWarnings workspace.settings.marker warnings).records
      (workspace.index (workspace.documents []))).1 = .ok kept := by
    rw [hrecords]
    decide +kernel
  have htriage : workspace.triage disk = .ok triage := by
    refine triage_eq_ok_iff.2
      ⟨[], hdocuments, log, hlog, emptyBlockLog, hempty, _, hdescribed, kept, ?_⟩
    rw [hlogged, List.take_append_drop]
    exact ⟨hretain, rfl⟩
  have hseparator : '\n' ∉ workspace.settings.separator := by decide +kernel
  have hsummary : triage.summary.kept = 3 := rfl
  have hcollapse : ∀ record ∈ kept.tail,
      Report.collapse record.headline = "bad f()".toList := by decide +kernel
  obtain ⟨_, _, _, _, reported, hdocuments', hlog', hempty', hdescribed', haccounts, hlined⟩ :=
    report_lined htriage (by rw [hsummary]; decide) hseparator
  rw [hdocuments, Except.ok.injEq] at hdocuments'
  rw [hlog, Except.ok.injEq] at hlog'
  rw [hempty, Except.ok.injEq] at hempty'
  subst hdocuments' hlog' hempty'
  rw [hdescribed, Except.ok.injEq] at hdescribed'
  rw [hlogged, ← hdescribed', List.take_append_drop] at haccounts
  rw [haccounts.kept_unique (Triage.accounts_of_retain rfl hretain)] at hlined
  have hfiles : (kept.map fun record => record.file).toFinset.card = 2 := by decide +kernel
  exact ⟨htriage, by rw [hsummary]; decide, hseparator, hcollapse,
    by rw [hlined.count_eq, hfiles, hsummary], hlined⟩

end Workspace

end DoxTriage
