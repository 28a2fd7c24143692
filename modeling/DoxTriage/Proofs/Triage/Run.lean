import DoxTriage.Triage
import DoxTriage.Proofs.Disk
import DoxTriage.Proofs.Rule.TwoDisks
import DoxTriage.Proofs.Triage.Accounting

/-!
# Writing the report

A run is a triage whose report is written. Whatever goes wrong, the disk stays as it was, because
the report is written last; and if nothing goes wrong, then the report is the one thing that is
another one afterwards. This is so wherever the report is to be written. If that is its place in the
workspace, then there is little that can go wrong with the writing. A triage has read a log from a
directory below that of the workspace, so the place of the report can be reached, and only a
directory in that place is in the way (`Workspace.run_own_eq_error_iff`).

A run does not read what it writes, provided that the report is not listed as a document. The other
inputs have other names than the report has, and so other locations. Every input that could be read
before the run can therefore be read after it, with the same text. That is enough for a second run:
the first one has read all that it asked for, or it would have failed.

Both rest on what a disk here cannot do (see `Disk`). Without links, files with different names are
different files; and a write that fails has not begun to replace the older report.

## Main results

* `Workspace.run_eq_ok_iff`, `Workspace.run_eq_error_iff`: all that can come of a run.
* `Workspace.run_all_or_nothing`: what a run does to the disk.
* `Workspace.run_own_eq_error_iff`: when the report cannot be written in its own place.
* `Workspace.run_again`: a second run changes nothing.
-/

namespace DoxTriage

namespace Workspace

variable {disk : Disk} {workspace : Workspace}

/-! ### Places -/

theorem namesFile_settingsFile (directory : Path) :
    (settingsFile directory).NamesFile "doxwarn.toml".toList :=
  Path.namesFile_join _ (by decide)

theorem namesFile_warningLog (workspace : Workspace) :
    workspace.warningLog.NamesFile "warnings.log".toList :=
  Path.namesFile_join _ (by decide)

theorem namesFile_emptyBlockLog (workspace : Workspace) :
    workspace.emptyBlockLog.NamesFile "empty-params.log".toList :=
  Path.namesFile_join _ (by decide)

theorem namesFile_documentLog (workspace : Workspace) :
    workspace.documentLog.NamesFile "class_methods.log".toList :=
  Path.namesFile_join _ (by decide)

theorem namesFile_report (workspace : Workspace) :
    workspace.report.NamesFile "dox_warnings.log".toList :=
  Path.namesFile_join _ (by decide)

/-- How the log of documents is reached from the directory of the workspace. -/
theorem documentLog_eq (workspace : Workspace) :
    workspace.documentLog =
      ⟨workspace.directory.front ++ "doc/doxygen/class_methods.log".toList⟩ := by
  have hgenerator : workspace.generatorDirectory =
      ⟨workspace.directory.front ++ "doc/doxygen".toList⟩ := Path.join_eq _ rfl
  have hlast : workspace.generatorDirectory.text.getLast? = some 'n' := by
    rw [hgenerator]
    exact Path.getLast?_front _ (by decide)
  rw [documentLog, Path.join_eq _ rfl, Path.front_of_getLast? hlast (by decide), hgenerator,
    List.append_assoc, List.append_assoc]
  rfl

/-- If the log of documents can be read, then the place of the report can be reached. -/
theorem exists_locate_report {documentLog : Text}
    (h : disk.readInput workspace.documentLog = .ok documentLog) :
    ∃ location, disk.locate workspace.report = .ok location := by
  obtain ⟨location, hlocate, -⟩ := Disk.read_eq_ok_iff.1 (Disk.readInput_eq_ok.1 h)
  have hsteps := Disk.stepsOf_of_namesFile (namesFile_documentLog workspace)
  rw [documentLog_eq] at hlocate hsteps
  rw [Path.names_front] at hsteps
  have hreport : workspace.report =
      ⟨workspace.directory.front ++ "dox_warnings.log".toList⟩ := Path.join_eq _ rfl
  rw [hreport]
  exact Disk.exists_locate_front hlocate (by decide) hsteps (by decide) (by decide)

/-! ### One run -/

section OneRun

variable {report : Path} {after : Disk}

/-- A run succeeds when its triage does and the report can be written. -/
theorem run_eq_ok_iff {triage : Triage} :
    workspace.run disk report = (.ok triage, after) ↔
      workspace.triage disk = .ok triage ∧ disk.write report triage.report = .ok after := by
  rw [run]
  cases workspace.triage disk with
  | error failure => simp
  | ok result =>
    dsimp only
    rw [Disk.writeOutput]
    cases hwrite : disk.write report result.report with
    | error fault =>
      refine iff_of_false (fun h => by cases h) ?_
      rintro ⟨hresult, hok⟩
      cases hresult
      cases hwrite.symm.trans hok
    | ok written =>
      constructor
      · intro h
        cases h
        exact ⟨rfl, hwrite⟩
      · rintro ⟨hresult, hok⟩
        cases hresult
        cases hwrite.symm.trans hok
        rfl

/-- A run fails when its triage does, or when the report cannot be written, and then it has written
nothing. -/
theorem run_eq_error_iff {failure : Failure} :
    workspace.run disk report = (.error failure, after) ↔
      after = disk ∧ (workspace.triage disk = .error failure ∨
        ∃ triage fault, workspace.triage disk = .ok triage ∧
          disk.write report triage.report = .error fault ∧ failure = .io fault) := by
  rw [run]
  cases workspace.triage disk with
  | error other => simp [eq_comm, and_comm]
  | ok result =>
    dsimp only
    rw [Disk.writeOutput]
    cases hwrite : disk.write report result.report with
    | error fault => simp [Except.mapError, hwrite, eq_comm, and_comm]
    | ok written => simp [Except.mapError, hwrite]

/-- **A run is all or nothing**, wherever its report is to be written. If it fails, then the disk is
as it was, and the triage has failed or the report could not be written. If it succeeds, then its
result is that of a triage before it, the report has the text of the result, whatever it had before,
and all other files are as they were. -/
theorem run_all_or_nothing (disk : Disk) (workspace : Workspace) (report : Path) :
    match workspace.run disk report with
    | (.error failure, after) =>
      after = disk ∧ (workspace.triage disk = .error failure ∨
        ∃ triage fault, workspace.triage disk = .ok triage ∧
          disk.write report triage.report = .error fault ∧ failure = .io fault)
    | (.ok triage, after) =>
      workspace.triage disk = .ok triage ∧ after.read report = .ok triage.report ∧
        after.current = disk.current ∧
        ∃ location, disk.locate report = .ok location ∧
          (∀ other, other ≠ location → after.entryAt other = disk.entryAt other) ∧
          ∀ path, disk.locate path ≠ .ok location → ∀ content,
            after.read path = .ok content ↔ disk.read path = .ok content := by
  split
  · next failure after hrun => exact run_eq_error_iff.1 hrun
  · next triage after hrun =>
    obtain ⟨htriage, hwrite⟩ := run_eq_ok_iff.1 hrun
    obtain ⟨location, hwritten⟩ := Disk.rewritten_of_write hwrite
    refine ⟨htriage, hwritten.read_eq, hwritten.current_eq, location, hwritten.locate_eq, ?_, ?_⟩
    · intro other hother
      exact hwritten.entryAt_eq hother
    · intro path hpath content
      exact hwritten.read_eq_ok_iff_of_ne hpath

/-- Written in its own place, the report can only be kept out by a directory. -/
theorem run_own_eq_error_iff {failure : Failure} :
    workspace.run disk = (.error failure, after) ↔
      after = disk ∧ (workspace.triage disk = .error failure ∨
        (∃ triage, workspace.triage disk = .ok triage) ∧
          (∃ location, disk.locate workspace.report = .ok location ∧
            disk.lookup location = some .directory) ∧ failure = .io .isDirectory) := by
  rw [run_eq_error_iff]
  refine and_congr_right fun _ => or_congr_right ?_
  constructor
  · rintro ⟨triage, fault, htriage, hwrite, rfl⟩
    obtain ⟨documentLog, hdocuments, -⟩ := triage_eq_ok_iff.1 htriage
    obtain ⟨location, hlocate⟩ := exists_locate_report hdocuments
    rw [Disk.write_of_locate (namesFile_report workspace) hlocate] at hwrite
    split at hwrite
    · next hdirectory =>
      cases hwrite
      exact ⟨⟨triage, htriage⟩, ⟨location, hlocate, hdirectory⟩, rfl⟩
    · cases hwrite
  · rintro ⟨⟨triage, htriage⟩, ⟨location, hlocate, hdirectory⟩, rfl⟩
    refine ⟨triage, .isDirectory, htriage, ?_, rfl⟩
    rw [Disk.write_of_locate (namesFile_report workspace) hlocate, if_pos hdirectory]

end OneRun

/-! ### Another run -/

section AnotherRun

variable {after : Disk} {location : Location} {report : Text}

/-- A file with another name than the report can be read as before. -/
theorem read_of_rewritten (h : Disk.Rewritten disk after workspace.report location report)
    {path : Path} {name : Text} (hname : path.NamesFile name)
    (hne : name ≠ "dox_warnings.log".toList) {content : Text} :
    after.read path = .ok content ↔ disk.read path = .ok content := by
  refine h.read_eq_ok_iff_of_ne fun hlocate => ?_
  exact Disk.locate_ne_of_namesFile hname (namesFile_report workspace) hne hlocate h.locate_eq

theorem load_settings_congr {file : Path}
    (h : ∀ content, after.read file = .ok content ↔ disk.read file = .ok content) :
    Settings.load after file = Settings.load disk file := by
  rw [Settings.load, Settings.load]
  cases hafter : after.read file with
  | ok content => rw [(h content).1 hafter]
  | error fault =>
    cases hdisk : disk.read file with
    | ok content => cases hafter.symm.trans ((h content).2 hdisk)
    | error other => rfl

/-- The settings are found again. -/
theorem inDirectory_of_rewritten {directory : Path}
    (h : Disk.Rewritten disk after (inDirectory disk directory).report location report) :
    inDirectory after directory = inDirectory disk directory := by
  refine congrArg (Workspace.mk directory) (load_settings_congr fun content => ?_)
  exact read_of_rewritten h (namesFile_settingsFile directory) (by decide)

/-- A document that is not the report has the declarations it had. -/
theorem readDocument_of_rewritten
    (h : Disk.Rewritten disk after workspace.report location report) {document : Path}
    (hapart : disk.locate document ≠ disk.locate workspace.report) {marker file : Text}
    {found : Array Declaration}
    (hfound : SymbolIndex.readDocument disk marker file document = .ok found) :
    SymbolIndex.readDocument after marker file document = .ok found := by
  rw [h.locate_eq] at hapart
  rw [SymbolIndex.readDocument] at hfound ⊢
  cases hread : disk.readInput document with
  | error failure =>
    rw [hread] at hfound
    cases hfound
  | ok text =>
    have hafter : after.readInput document = .ok text := by
      rw [Disk.readInput_eq_ok] at hread ⊢
      exact (h.read_eq_ok_iff_of_ne hapart).2 hread
    rw [hread] at hfound
    rw [hafter]
    exact hfound

/-- If no document is the report, then a triage comes to the same result again. -/
theorem triage_of_rewritten (h : Disk.Rewritten disk after workspace.report location report)
    (hapart : ∀ document ∈ workspace.listed disk,
      disk.locate document ≠ disk.locate workspace.report)
    {triage : Triage} (htriage : workspace.triage disk = .ok triage) :
    workspace.triage after = .ok triage := by
  have hlog : ∀ {path : Path} {name content : Text}, path.NamesFile name →
      name ≠ "dox_warnings.log".toList → disk.readInput path = .ok content →
        after.readInput path = .ok content := by
    intro path name content hname hne hread
    rw [Disk.readInput_eq_ok] at hread ⊢
    exact (read_of_rewritten h hname hne).2 hread
  obtain ⟨documentLog, hdocuments, log, hwarnings, emptyBlockLog, hempty, described, hdescribed,
    kept, hkept, hresult⟩ := triage_eq_ok_iff.1 htriage
  have hlisted : workspace.listed disk =
      (workspace.documents documentLog).blocks.flatMap DocumentBlock.documents := by
    rw [listed, readDocuments, hdocuments]
    rfl
  refine triage_eq_ok_iff.2 ⟨documentLog, hlog (namesFile_documentLog workspace) (by decide)
    hdocuments, log, hlog (namesFile_warningLog workspace) (by decide) hwarnings, emptyBlockLog,
    hlog (namesFile_emptyBlockLog workspace) (by decide) hempty, described, hdescribed, kept, ?_,
    hresult⟩
  refine Rule.fst_retain_eq_ok_of_load rfl (by decide) (fun file found hfound => ?_) hkept
  refine mapM_eq_ok_of_forall (fun document hdocument declarations hdeclarations => ?_) hfound
  have hmem : document ∈ workspace.listed disk := by
    rw [hlisted]
    exact ClassDocuments.mem_documents_of_mem_documentsOf hdocument
  exact readDocument_of_rewritten h (hapart document hmem) hdeclarations

/-- **A second run changes nothing.** If a run succeeds, and no document that is listed is the
report, then the workspace that is found in the directory afterwards is run with the same result,
and the disk stays as it is. -/
theorem run_again {disk : Disk} {directory : Path} {triage : Triage} {after : Disk}
    (hrun : (inDirectory disk directory).run disk = (.ok triage, after))
    (hapart : ∀ document ∈ (inDirectory disk directory).listed disk,
      disk.locate document ≠ disk.locate (inDirectory disk directory).report) :
    (inDirectory after directory).run after = (.ok triage, after) := by
  obtain ⟨htriage, hwrite⟩ := run_eq_ok_iff.1 hrun
  obtain ⟨location, hwritten⟩ := Disk.rewritten_of_write hwrite
  rw [inDirectory_of_rewritten hwritten]
  refine run_eq_ok_iff.2 ⟨triage_of_rewritten hwritten hapart htriage, ?_⟩
  exact hwritten.write_eq (namesFile_report _)

/-- A run over an older report: of two warnings one is dropped, because a document has the
declaration, and the other one is reported. -/
theorem run_again_over_older_report :
    let documentLog : Text := "warning:/ci/src/f.hpp\nd.xml\n".toList
    let document : Text := "<memberdef><argsstring>(int a)</argsstring>".toList ++
      "<location file='/ci/src/f.hpp' line='8'/></memberdef>".toList
    let complaint : Text :=
      "argument 'a' of command @param is not found in the argument list of f(int a)".toList
    let log : Text := "doxygen:/ci/src/g.hpp:7: warning: no brief\n".toList ++
      "doxygen:/ci/src/f.hpp:5: warning: ".toList ++ complaint ++ ['\n']
    let warnings : List Warning := [⟨"/ci/src/g.hpp".toList, 7, "no brief".toList⟩,
      ⟨"/ci/src/f.hpp".toList, 5, complaint⟩]
    let directory : Path := ⟨"b".toList⟩
    let workspace : Workspace := ⟨directory, {}⟩
    let disk := (((((⟨fun _ => none, []⟩ : Disk).put workspace.documentLog
      (.file documentLog)).put ⟨"b/d.xml".toList⟩ (.file document)).put workspace.warningLog
        (.file log)).put workspace.emptyBlockLog (.file [])).put workspace.report
          (.file "old".toList)
    let triage := Triage.of workspace.settings.separator
      (Ledger.ofWarnings workspace.settings.marker warnings)
      [⟨⟨"src/g.hpp".toList, 7, "no brief".toList⟩, []⟩]
    let after := disk.set ["b".toList, "dox_warnings.log".toList] (.file triage.report)
    (inDirectory disk directory).run disk = (.ok triage, after) ∧
      (∀ document ∈ (inDirectory disk directory).listed disk,
        disk.locate document ≠ disk.locate (inDirectory disk directory).report) ∧
      (inDirectory after directory).run after = (.ok triage, after) := by
  intro documentLog document complaint log warnings directory workspace disk triage after
  have hworkspace : inDirectory disk directory = workspace := by decide +kernel
  have hlog : disk.readInput workspace.warningLog = .ok log := by decide +kernel
  have hlogged : Warning.ofLog log ++ [] = warnings := by decide +kernel
  -- This spares the evaluation of the sort.
  have hrecords := Ledger.records_of_pairwise
    (Ledger.ofWarnings workspace.settings.marker warnings) (by decide +kernel)
  have htriage : workspace.triage disk = .ok triage := by
    refine triage_eq_ok_iff.2 ⟨documentLog, by decide +kernel, log, hlog, [], by decide +kernel, [],
      by decide +kernel, ?_⟩
    rw [hlogged]
    refine ⟨_, ?_, rfl⟩
    rw [hrecords]
    decide +kernel
  have hwrite : disk.write workspace.report triage.report = .ok after := by
    have hlocate : disk.locate workspace.report =
        .ok ["b".toList, "dox_warnings.log".toList] := by decide +kernel
    rw [Disk.write_of_locate (namesFile_report workspace) hlocate]
    exact if_neg (by decide +kernel)
  have hrun : (inDirectory disk directory).run disk = (.ok triage, after) := by
    rw [hworkspace]
    exact run_eq_ok_iff.2 ⟨htriage, hwrite⟩
  have hapart : ∀ document ∈ (inDirectory disk directory).listed disk,
      disk.locate document ≠ disk.locate (inDirectory disk directory).report := by
    rw [hworkspace]
    decide +kernel
  exact ⟨hrun, hapart, run_again hrun hapart⟩

end AnotherRun

end Workspace

end DoxTriage
