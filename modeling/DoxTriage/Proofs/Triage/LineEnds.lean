import DoxTriage.Proofs.Disk.LineEnds
import DoxTriage.Proofs.SymbolIndex.Nearest
import DoxTriage.Proofs.Triage.Consulted

/-!
# Logs with other line ends

The three logs are read line by line, and nothing else of them is looked at. So a log with returns
before its line feeds says the same, down to the number and the text of the first line that is
malformed, and a triage comes to the same result with any of the logs carried over in this way.

There is one reservation. A document is not read by lines: a line feed in a parameter list is part
of the list, and a return before it is one more character. Nobody prevents the log of documents from
listing one of the logs, as unlikely as that is, and then the two readings of the log part ways. Two
parameter lists on one line of source are told apart by their texts, so that a return may change
which of them comes first (`Workspace.triage_withReturns_of_consulted_log`). The law is therefore
about logs that are not consulted as documents.

## Main definitions

* `Workspace.logs`: the three logs.

## Main results

* `Workspace.inDirectory_withReturns`: the settings are found again.
* `Workspace.triage_withReturns`: a triage comes to the same result.
* `Workspace.triage_of_one_complaint`: a triage of one complaint, with one document.
* `Workspace.line_ends_make_no_difference`: the logs say the same, and a triage does.
-/

namespace DoxTriage

theorem Except.map_bind {ε α β γ : Type} (result : Except ε α) (f : α → β)
    (next : β → Except ε γ) : result.map f >>= next = result >>= fun a => next (f a) := by
  cases result <;> rfl

/-! ### Readers of logs -/

section Readers

variable {content other : Text}

theorem Warning.ofLog_congr (h : Text.lines other = Text.lines content) :
    ofLog other = ofLog content := by
  rw [ofLog, ofLog, h]

theorem Warning.ofEmptyBlockLog_congr (h : Text.lines other = Text.lines content)
    (extensions : List Text) (log : Path) :
    ofEmptyBlockLog extensions log other = ofEmptyBlockLog extensions log content := by
  rw [ofEmptyBlockLog, ofEmptyBlockLog, EmptyBlock.ofLog, EmptyBlock.ofLog, h]

theorem ClassDocuments.ofLog_congr (h : Text.lines other = Text.lines content) (marker : Text)
    (buildDirectory : Path) :
    ofLog marker buildDirectory other = ofLog marker buildDirectory content := by
  rw [ofLog, ofLog, h]

end Readers

namespace Workspace

variable {disk : Disk} {workspace : Workspace} {directory : Path} {changed : List Path}

/-! ### The inputs of a triage -/

/-- The three logs of the generator. -/
def logs (workspace : Workspace) : List Path :=
  [workspace.documentLog, workspace.warningLog, workspace.emptyBlockLog]

/-- A path that names another file than the logs leads to none of them. -/
theorem apart_of_namesFile {p : Path} {name : Text} (hname : p.NamesFile name)
    (hne : name ∉ ["class_methods.log".toList, "warnings.log".toList, "empty-params.log".toList])
    (h : changed ⊆ workspace.logs) : disk.Apart changed p := by
  intro log hlog location hlocate
  simp only [List.mem_cons, List.not_mem_nil, or_false, not_or] at hne
  obtain ⟨hdocument, hwarning, hempty⟩ := hne
  have hmem := h hlog
  simp only [logs, List.mem_cons, List.not_mem_nil, or_false] at hmem
  rcases hmem with rfl | rfl | rfl
  · exact Disk.locate_ne_of_namesFile (namesFile_documentLog _) hname (Ne.symm hdocument) hlocate
  · exact Disk.locate_ne_of_namesFile (namesFile_warningLog _) hname (Ne.symm hwarning) hlocate
  · exact Disk.locate_ne_of_namesFile (namesFile_emptyBlockLog _) hname (Ne.symm hempty) hlocate

/-- The settings are found again. -/
theorem inDirectory_withReturns (h : changed ⊆ (inDirectory disk directory).logs) :
    inDirectory (disk.withReturns changed) directory = inDirectory disk directory := by
  have hapart : disk.Apart changed (settingsFile directory) :=
    apart_of_namesFile (namesFile_settingsFile directory) (by decide +kernel) h
  refine congrArg (Workspace.mk directory) (load_settings_congr fun content => ?_)
  rw [Disk.read_withReturns_of_apart hapart]

/-- What is consulted is listed. -/
theorem Consults.mem_listed {document : Path} (h : workspace.Consults disk document) :
    document ∈ workspace.listed disk := by
  obtain ⟨hdocuments, -, -, -, -, -, hdocument⟩ := h
  rw [listed, hdocuments]
  exact ClassDocuments.mem_documents_of_mem_documentsOf hdocument

/-! ### The triage -/

theorem readDocuments_withReturns (hplain : disk.Plain changed) :
    workspace.readDocuments (disk.withReturns changed) = workspace.readDocuments disk := by
  obtain ⟨spelling, hread, hlines⟩ := Disk.exists_spelling hplain workspace.documentLog
  rw [readDocuments, readDocuments, hread]
  cases hlog : disk.readInput workspace.documentLog with
  | error failure => rfl
  | ok content => exact congrArg Except.ok (ClassDocuments.ofLog_congr (hlines content hlog) _ _)

/-- A triage comes to the same result, if no document that it consults is one of the files. -/
theorem triage_withReturns (hplain : disk.Plain changed)
    (hapart : ∀ document, workspace.Consults disk document → disk.Apart changed document) :
    workspace.triage (disk.withReturns changed) = workspace.triage disk := by
  obtain ⟨spelling, hlog, hlines⟩ := Disk.exists_spelling hplain workspace.warningLog
  obtain ⟨spelling', hempty, hlines'⟩ := Disk.exists_spelling hplain workspace.emptyBlockLog
  rw [triage, triage, readDocuments_withReturns hplain, hlog, hempty]
  simp only [Except.map_bind]
  refine Except.bind_congr_of_ok fun documents hdocuments => ?_
  refine Except.bind_congr_of_ok fun log hlog => ?_
  refine Except.bind_congr_of_ok fun emptyBlockLog hempty => ?_
  have hwarnings : workspace.warnings (spelling log) (spelling' emptyBlockLog) =
      workspace.warnings log emptyBlockLog := by
    rw [warnings, warnings, Warning.ofLog_congr (hlines log hlog),
      Warning.ofEmptyBlockLog_congr (hlines' emptyBlockLog hempty)]
  rw [hwarnings]
  refine Except.bind_congr_of_ok fun warnings hwarnings => ?_
  have hload : ∀ record ∈ (Ledger.ofWarnings workspace.settings.marker warnings).records,
      (∃ name, Rule.Complains record.headline name) →
        (workspace.index documents).load (disk.withReturns changed) record.file =
          (workspace.index documents).load disk record.file := by
    intro record hrecord hcomplains
    refine SymbolIndex.load_congr_of_read fun document hdocument => ?_
    refine Disk.read_withReturns_of_apart (hapart document ?_)
    exact ⟨hdocuments, hlog, hempty, hwarnings, hrecord, hcomplains, hdocument⟩
  rw [Rule.fst_retain_congr rfl hload]

/-- A triage of one warning, a complaint about an argument, when its source file has one document:
the declarations in this document decide. -/
theorem triage_of_one_complaint {documentLog log name : Text} {warning : Warning} {record : Record}
    {document : Path} {declared : List Declaration}
    (hdocuments : disk.readInput workspace.documentLog = .ok documentLog)
    (hlog : disk.readInput workspace.warningLog = .ok log)
    (hempty : disk.readInput workspace.emptyBlockLog = .ok [])
    (hwarning : Warning.ofLog log = [warning])
    (hrecord : Record.ofWarning workspace.settings.marker warning = record)
    (hname : Rule.Complains record.headline name)
    (hdocument : (workspace.documents documentLog).documentsOf record.file = [document])
    (hdeclared : SymbolIndex.Describes disk workspace.settings.marker record.file document
      declared) :
    workspace.triage disk = .ok (Triage.of workspace.settings.separator
      (Ledger.ofWarnings workspace.settings.marker [warning])
      (if Rule.confirms name (SymbolIndex.candidates record.line [declared.toArray]) then []
      else [record])) := by
  have hload : (workspace.index (workspace.documents documentLog)).load disk record.file =
      .ok [declared.toArray] := SymbolIndex.load_of_describes hdocument hdeclared
  have hrecords : (Ledger.ofWarnings workspace.settings.marker [warning]).records = [record] := by
    rw [Ledger.records_of_pairwise (Ledger.ofWarnings _ [warning]) (List.pairwise_singleton _ _),
      ← hrecord]
    rfl
  refine triage_eq_ok_iff.2 ⟨documentLog, hdocuments, log, hlog, [], hempty, [], rfl, ?_⟩
  rw [hwarning, List.append_nil]
  refine ⟨_, ?_, rfl⟩
  rw [hrecords, Rule.fst_retain_cons rfl, Rule.verdict_of_complains rfl (by decide) hname, hload]
  by_cases hconfirms : Rule.confirms name (SymbolIndex.candidates record.line [declared.toArray])
  · simp only [Except.map, if_pos hconfirms]
    rfl
  · simp only [Except.map, if_neg hconfirms]
    rfl

/-- **Line ends make no difference.** A text without returns says the same to each of the three
readers of logs when it has returns before its line feeds, and if it is malformed then so is the
same line of it. When the logs, or some of them, are written with such line ends, the workspace is
found with the settings it had, and a triage comes to the same summary and report, or fails with the
same failure, provided that it does not consult one of these logs as a document. -/
theorem line_ends_make_no_difference :
    (∀ content : Text, '\r' ∉ content →
      Warning.ofLog (Text.withReturns content) = Warning.ofLog content ∧
      (∀ extensions log, Warning.ofEmptyBlockLog extensions log (Text.withReturns content) =
        Warning.ofEmptyBlockLog extensions log content) ∧
      ∀ marker buildDirectory,
        ClassDocuments.ofLog marker buildDirectory (Text.withReturns content) =
          ClassDocuments.ofLog marker buildDirectory content) ∧
    ∀ (disk : Disk) (workspace : Workspace) (changed : List Path),
      changed ⊆ workspace.logs → disk.Plain changed →
      (∀ document, workspace.Consults disk document → disk.Apart changed document) →
      (∀ log ∈ changed,
        (disk.withReturns changed).read log = (disk.read log).map Text.withReturns) ∧
      workspace.triage (disk.withReturns changed) = workspace.triage disk ∧
      ∀ directory, inDirectory disk directory = workspace →
        inDirectory (disk.withReturns changed) directory = workspace := by
  constructor
  · intro content hcontent
    have hlines := Text.lines_withReturns hcontent
    exact ⟨Warning.ofLog_congr hlines, Warning.ofEmptyBlockLog_congr hlines,
      ClassDocuments.ofLog_congr hlines⟩
  · intro disk workspace changed hlogs hplain hapart
    refine ⟨fun log hlog => Disk.read_withReturns_of_mem hlog rfl,
      triage_withReturns hplain hapart, ?_⟩
    rintro directory rfl
    exact inDirectory_withReturns hlogs

/-- All logs are written with returns. One warning is reported with the line after it; the name that
another one leaves out would stand directly before the line end; and a document is consulted about a
third one. -/
theorem line_ends_make_no_difference_with_all_logs :
    let documentLog : Text := "warning:/ci/src/f.hpp\nd.xml\n".toList
    let document : Text := "<memberdef><argsstring>(int a)</argsstring>".toList ++
      "<location file='/ci/src/f.hpp' line='8'/></memberdef>".toList
    let complaint : Text :=
      "argument 'a' of command @param is not found in the argument list of f(int a)".toList
    let nameless : Text := "no uniquely matching class member found for ".toList
    let log : Text := "doxygen:/ci/src/g.hpp:9: warning: no brief\n  of g\n".toList ++
      "doxygen:/ci/src/g.hpp:7: warning: ".toList ++ nameless ++
      "\ndoxygen:/ci/src/f.hpp:5: warning: ".toList ++ complaint ++ ['\n']
    let warnings : List Warning := [⟨"/ci/src/g.hpp".toList, 9, "no brief\n  of g".toList⟩,
      ⟨"/ci/src/g.hpp".toList, 7, nameless⟩, ⟨"/ci/src/f.hpp".toList, 5, complaint⟩]
    let workspace : Workspace := ⟨⟨"b".toList⟩, {}⟩
    let disk := ((((⟨fun _ => none, []⟩ : Disk).put workspace.documentLog
      (.file documentLog)).put ⟨"b/d.xml".toList⟩ (.file document)).put workspace.warningLog
        (.file log)).put workspace.emptyBlockLog (.file [])
    let triage := Triage.of workspace.settings.separator
      (Ledger.ofWarnings workspace.settings.marker warnings)
      [⟨⟨"src/g.hpp".toList, 9, "no brief".toList⟩, ["of g".toList]⟩]
    disk.Plain workspace.logs ∧
      (∀ document, workspace.Consults disk document → disk.Apart workspace.logs document) ∧
      workspace.triage disk = .ok triage ∧
      workspace.triage (disk.withReturns workspace.logs) = .ok triage := by
  intro documentLog document complaint nameless log warnings workspace disk triage
  have hdocuments : disk.readInput workspace.documentLog = .ok documentLog := by decide +kernel
  have hlog : disk.readInput workspace.warningLog = .ok log := by decide +kernel
  have hempty : disk.readInput workspace.emptyBlockLog = .ok [] := by decide +kernel
  have hplain : disk.Plain workspace.logs := by
    intro file hfile content hcontent
    rw [← Disk.readInput_eq_ok] at hcontent
    simp only [logs, List.mem_cons, List.not_mem_nil, or_false] at hfile
    rcases hfile with rfl | rfl | rfl
    · cases hdocuments.symm.trans hcontent
      decide +kernel
    · cases hlog.symm.trans hcontent
      decide +kernel
    · cases hempty.symm.trans hcontent
      exact List.not_mem_nil
  have hapart : ∀ document, workspace.Consults disk document →
      disk.Apart workspace.logs document := by
    intro path hpath
    have hlisted : workspace.listed disk = [⟨"b/d.xml".toList⟩] := by decide +kernel
    have hmem := hpath.mem_listed
    rw [hlisted, List.mem_singleton] at hmem
    subst hmem
    have hname : Path.NamesFile ⟨"b/d.xml".toList⟩ "d.xml".toList := by
      constructor <;> decide +kernel
    exact apart_of_namesFile hname (by decide +kernel) (List.Subset.refl _)
  have htriage : workspace.triage disk = .ok triage := by
    have hlogged : Warning.ofLog log ++ [] = warnings := by decide +kernel
    refine triage_eq_ok_iff.2
      ⟨documentLog, hdocuments, log, hlog, [], hempty, [], rfl, ?_⟩
    rw [hlogged]
    refine ⟨_, ?_, rfl⟩
    -- This spares the evaluation of the sort.
    rw [Ledger.records_of_pairwise _ (by decide +kernel)]
    decide +kernel
  obtain ⟨-, hlaw⟩ := line_ends_make_no_difference
  obtain ⟨-, hsame, -⟩ := hlaw disk workspace workspace.logs (List.Subset.refl _) hplain hapart
  exact ⟨hplain, hapart, htriage, hsame.trans htriage⟩

/-- The log of warnings is listed as a document, and two members in it have parameter lists on one
line. They come in one order if the first list begins with a line feed, and in the other order if it
begins with a return, since a vertical tab is between the two. So the complaint is dropped in one
case and reported in the other. -/
theorem triage_withReturns_of_consulted_log :
    let member (parameters : Text) : Text :=
      "<memberdef><location file='src/f.hpp' line='8'/><argsstring>".toList ++ parameters ++
        "</argsstring></memberdef>".toList
    let complaint : Text :=
      "argument 'a' of command @param is not found in the argument list of f(int a)".toList
    let log : Text := "doxygen:src/f.hpp:5: warning: ".toList ++ complaint ++
      '\n' :: (member "(\na)".toList ++ member "(\x0Bb)".toList)
    let documentLog : Text := "warning:src/f.hpp\ndoc/doxygen/warnings.log\n".toList
    let workspace : Workspace := ⟨⟨"b".toList⟩, {}⟩
    let disk := (((⟨fun _ => none, []⟩ : Disk).put workspace.documentLog
      (.file documentLog)).put workspace.warningLog (.file log)).put workspace.emptyBlockLog
        (.file [])
    let other := disk.withReturns [workspace.warningLog]
    let warning : Warning := ⟨"src/f.hpp".toList, 5, complaint⟩
    let triage := Triage.of workspace.settings.separator
      (Ledger.ofWarnings workspace.settings.marker [warning])
    let record : Record := ⟨⟨"src/f.hpp".toList, 5, complaint⟩, []⟩
    (∀ file ∈ workspace.logs, ∃ content, disk.read file = .ok content ∧ '\r' ∉ content) ∧
      other.read workspace.warningLog = .ok (Text.withReturns log) ∧
      workspace.triage disk = .ok (triage []) ∧
      workspace.triage other = .ok (triage [record]) ∧
      triage [] ≠ triage [record] := by
  intro member complaint log documentLog workspace disk other warning triage record
  have hlog : disk.read workspace.warningLog = .ok log := by decide +kernel
  have hother : other.read workspace.warningLog = .ok (Text.withReturns log) := by decide +kernel
  have hlogs : ∀ file ∈ workspace.logs, ∃ content,
      disk.read file = .ok content ∧ '\r' ∉ content := by
    intro file hfile
    simp only [logs, List.mem_cons, List.not_mem_nil, or_false] at hfile
    rcases hfile with rfl | rfl | rfl
    · exact ⟨documentLog, by decide +kernel, by decide +kernel⟩
    · exact ⟨log, hlog, by decide +kernel⟩
    · exact ⟨[], by decide +kernel, List.not_mem_nil⟩
  have hname : Rule.Complains record.headline ['a'] :=
    Rule.missingArgument?_eq_some_iff.1 (by decide +kernel)
  have hdocument : (workspace.documents documentLog).documentsOf record.file =
      [workspace.warningLog] := by decide +kernel
  have hrecord : Record.ofWarning workspace.settings.marker warning = record := by decide +kernel
  -- The orders are given, since the kernel does not get through a sort.
  have hread : (Xml.read log).events.foldlM
      (Progress.after workspace.settings.marker record.file) {} =
        .ok ⟨none, [⟨8, "(\x0Bb)".toList⟩, ⟨8, "(\na)".toList⟩]⟩ := by decide +kernel
  have hreturned : (Xml.read (Text.withReturns log)).events.foldlM
      (Progress.after workspace.settings.marker record.file) {} =
        .ok ⟨none, [⟨8, "(\x0Bb)".toList⟩, ⟨8, "(\r\na)".toList⟩]⟩ := by decide +kernel
  have hdeclared : SymbolIndex.Describes disk workspace.settings.marker record.file
      workspace.warningLog [⟨8, "(\na)".toList⟩, ⟨8, "(\x0Bb)".toList⟩] :=
    ⟨Disk.readInput_eq_ok.2 hlog, Declaration.ofDocument_eq_ok_of_perm hread (by decide +kernel)
      (.swap _ _ _) (by decide +kernel)⟩
  have hswapped : SymbolIndex.Describes other workspace.settings.marker record.file
      workspace.warningLog [⟨8, "(\x0Bb)".toList⟩, ⟨8, "(\r\na)".toList⟩] :=
    ⟨Disk.readInput_eq_ok.2 hother, Declaration.ofDocument_eq_ok_of_perm hreturned
      (by decide +kernel) (.refl _) (by decide +kernel)⟩
  have hdropped := triage_of_one_complaint (by decide +kernel) (Disk.readInput_eq_ok.2 hlog)
    (by decide +kernel) (by decide +kernel) hrecord hname hdocument hdeclared
  have hreported := triage_of_one_complaint (by decide +kernel) (Disk.readInput_eq_ok.2 hother)
    (by decide +kernel) (by decide +kernel) hrecord hname hdocument hswapped
  rw [if_pos (by decide +kernel)] at hdropped
  rw [if_neg (by decide +kernel)] at hreported
  exact ⟨hlogs, hother, hdropped, hreported, by decide +kernel⟩

end Workspace

end DoxTriage
