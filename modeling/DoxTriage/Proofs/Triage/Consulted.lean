import DoxTriage.Proofs.Triage.Run

/-!
# Documents that nobody asks for

The log may list many documents, and a triage opens few of them. A document is opened when the
declarations of its source file are asked for. Only the fifth rule asks, and only about a record
that complains about an argument. So what is in the other documents cannot matter, nor whether they
are well formed, nor whether they are there at all.

This is a law on two disks. If the same is read from both of them in every place that a triage
consults, the same text or the same fault, then it comes to the same result, or it fails with the
same failure. Which places are consulted is known from the logs before any document is opened, and
therefore it makes no difference which of the two disks is asked for them
(`Workspace.SameInputs.symm`).

## Main definitions

* `Workspace.Consults`: a document that a triage consults.
* `Workspace.SameInputs`: two disks on which a triage reads the same.

## Main results

* `Workspace.triage_of_sameInputs`: what a triage does not consult does not matter.
-/

namespace DoxTriage

/-! ### What a triage consults -/

namespace Workspace

/-- A triage consults a document if it belongs to a source file that one of the records complains
about. When a log cannot be read there are no records, and nothing is consulted. -/
inductive Consults (disk : Disk) (workspace : Workspace) (document : Path) : Prop
  | intro {documents : ClassDocuments} {log emptyBlockLog : Text} {warnings : List Warning}
    {record : Record} (hdocuments : workspace.readDocuments disk = .ok documents)
    (hlog : disk.readInput workspace.warningLog = .ok log)
    (hempty : disk.readInput workspace.emptyBlockLog = .ok emptyBlockLog)
    (hwarnings : workspace.warnings log emptyBlockLog = .ok warnings)
    (hrecord : record ∈ (Ledger.ofWarnings workspace.settings.marker warnings).records)
    (hcomplains : ∃ name, Rule.Complains record.headline name)
    (hdocument : document ∈ documents.documentsOf record.file)

/-- On two disks the same is read for a triage in one directory: the settings, the logs, and the
documents that are consulted. A fault on the one is the same fault on the other. -/
structure SameInputs (disk other : Disk) (directory : Path) : Prop where
  settings : other.read (settingsFile directory) = disk.read (settingsFile directory)
  documentLog : other.read (inDirectory disk directory).documentLog =
    disk.read (inDirectory disk directory).documentLog
  warningLog : other.read (inDirectory disk directory).warningLog =
    disk.read (inDirectory disk directory).warningLog
  emptyBlockLog : other.read (inDirectory disk directory).emptyBlockLog =
    disk.read (inDirectory disk directory).emptyBlockLog
  consulted : ∀ document, (inDirectory disk directory).Consults disk document →
    other.read document = disk.read document

namespace SameInputs

variable {disk other : Disk} {directory : Path}

theorem inDirectory_eq (h : SameInputs disk other directory) :
    inDirectory other directory = inDirectory disk directory :=
  congrArg (Workspace.mk directory) (load_settings_congr fun content => by rw [h.settings])

theorem readDocuments_eq (h : SameInputs disk other directory) :
    (inDirectory disk directory).readDocuments other =
      (inDirectory disk directory).readDocuments disk := by
  rw [readDocuments, readDocuments, Disk.readInput_congr h.documentLog]

/-- The logs decide what is consulted. -/
theorem consults_of_consults (h : SameInputs disk other directory) {document : Path}
    (hconsults : (inDirectory other directory).Consults other document) :
    (inDirectory disk directory).Consults disk document := by
  rw [h.inDirectory_eq] at hconsults
  obtain ⟨hdocuments, hlog, hempty, hwarnings, hrecord, hcomplains, hdocument⟩ := hconsults
  rw [h.readDocuments_eq] at hdocuments
  rw [Disk.readInput_congr h.warningLog] at hlog
  rw [Disk.readInput_congr h.emptyBlockLog] at hempty
  exact ⟨hdocuments, hlog, hempty, hwarnings, hrecord, hcomplains, hdocument⟩

/-- It does not matter which of two disks is asked for what is consulted. -/
theorem symm (h : SameInputs disk other directory) : SameInputs other disk directory where
  settings := h.settings.symm
  documentLog := h.documentLog.symm
  warningLog := h.warningLog.symm
  emptyBlockLog := h.emptyBlockLog.symm
  consulted := fun document hconsults =>
    (h.consulted document (h.consults_of_consults hconsults)).symm

end SameInputs

/-- **What a triage does not consult does not matter.** If the settings, the logs and the documents
that are consulted are the same on two disks, then a triage comes to the same summary and the same
report on both, or it fails on both with the same failure. -/
theorem triage_of_sameInputs {disk other : Disk} {directory : Path}
    (h : SameInputs disk other directory) :
    (inDirectory other directory).triage other = (inDirectory disk directory).triage disk := by
  rw [h.inDirectory_eq, triage, triage, h.readDocuments_eq, Disk.readInput_congr h.warningLog,
    Disk.readInput_congr h.emptyBlockLog]
  refine Except.bind_congr_of_ok fun documents hdocuments => ?_
  refine Except.bind_congr_of_ok fun log hlog => ?_
  refine Except.bind_congr_of_ok fun emptyBlockLog hempty => ?_
  refine Except.bind_congr_of_ok fun warnings hwarnings => ?_
  have hload : ∀ record ∈ (Ledger.ofWarnings (inDirectory disk directory).settings.marker
      warnings).records, (∃ name, Rule.Complains record.headline name) →
        ((inDirectory disk directory).index documents).load other record.file =
          ((inDirectory disk directory).index documents).load disk record.file := by
    intro record hrecord hcomplains
    refine SymbolIndex.load_congr_of_read fun document hdocument => h.consulted document ?_
    exact ⟨hdocuments, hlog, hempty, hwarnings, hrecord, hcomplains, hdocument⟩
  dsimp only
  rw [Rule.fst_retain_congr rfl hload]

/-- Of two documents in the log only one is consulted, since nobody complains about an argument in
the other source file. On one disk this document is missing, on the other one its markup is broken;
and a run on the other disk has left an older report. -/
theorem triage_of_sameInputs_broken_document :
    let documentLog : Text := "warning:/ci/src/f.hpp\nd.xml\nwarning:/ci/src/g.hpp\ne.xml\n".toList
    let document : Text := "<memberdef><argsstring>(int a)</argsstring>".toList ++
      "<location file='/ci/src/f.hpp' line='8'/></memberdef>".toList
    let complaint : Text :=
      "argument 'a' of command @param is not found in the argument list of f(int a)".toList
    let log : Text := "doxygen:/ci/src/g.hpp:7: warning: no brief\n".toList ++
      "doxygen:/ci/src/f.hpp:5: warning: ".toList ++ complaint ++ ['\n']
    let warnings : List Warning := [⟨"/ci/src/g.hpp".toList, 7, "no brief".toList⟩,
      ⟨"/ci/src/f.hpp".toList, 5, complaint⟩]
    let directory : Path := ⟨"b".toList⟩
    let workspace : Workspace := ⟨directory, {}⟩
    let disk := ((((⟨fun _ => none, []⟩ : Disk).put workspace.documentLog
      (.file documentLog)).put ⟨"b/d.xml".toList⟩ (.file document)).put workspace.warningLog
        (.file log)).put workspace.emptyBlockLog (.file [])
    let other := (disk.put ⟨"b/e.xml".toList⟩ (.file "<a".toList)).put workspace.report
      (.file "old".toList)
    let triage := Triage.of workspace.settings.separator
      (Ledger.ofWarnings workspace.settings.marker warnings)
      [⟨⟨"src/g.hpp".toList, 7, "no brief".toList⟩, []⟩]
    SameInputs disk other directory ∧
      (inDirectory disk directory).triage disk = .ok triage ∧
      (inDirectory other directory).triage other = .ok triage := by
  intro documentLog document complaint log warnings directory workspace disk other triage
  have hworkspace : inDirectory disk directory = workspace := by decide +kernel
  have hread : disk.readInput workspace.documentLog = .ok documentLog := by decide +kernel
  have hdocuments : workspace.readDocuments disk = .ok (workspace.documents documentLog) := by
    rw [readDocuments, hread]
    rfl
  have hlog : disk.readInput workspace.warningLog = .ok log := by decide +kernel
  have hempty : disk.readInput workspace.emptyBlockLog = .ok [] := by decide +kernel
  have hlogged : Warning.ofLog log ++ [] = warnings := by decide +kernel
  have hwarnings : workspace.warnings log [] = .ok warnings := congrArg Except.ok hlogged
  have hconsulted : ∀ path, workspace.Consults disk path → path = ⟨"b/d.xml".toList⟩ := by
    rintro path ⟨hdocuments', hlog', hempty', hwarnings', hrecord, ⟨name, hname⟩, hpath⟩
    cases hdocuments.symm.trans hdocuments'
    cases hlog.symm.trans hlog'
    cases hempty.symm.trans hempty'
    cases hwarnings.symm.trans hwarnings'
    have hkeys : warnings.map (Warning.key workspace.settings.marker) =
        [⟨"src/g.hpp".toList, 7, "no brief".toList⟩, ⟨"src/f.hpp".toList, 5, complaint⟩] := by
      decide +kernel
    have hkey := Ledger.mem_keys_ofWarnings.1 (List.mem_map_of_mem hrecord)
    rw [hkeys, List.mem_cons, List.mem_singleton] at hkey
    rcases hkey with hkey | hkey
    · have hnone : Rule.missingArgument? "no brief".toList = none := by decide +kernel
      rw [congrArg Key.headline hkey] at hname
      cases hnone.symm.trans (Rule.missingArgument?_of_complains hname)
    · have hpaths : (workspace.documents documentLog).documentsOf "src/f.hpp".toList =
          [⟨"b/d.xml".toList⟩] := by decide +kernel
      rw [congrArg Key.file hkey, hpaths] at hpath
      exact List.mem_singleton.1 hpath
  have hsame : SameInputs disk other directory := by
    constructor
    case consulted =>
      intro path hpath
      rw [hworkspace] at hpath
      rw [hconsulted path hpath]
      decide +kernel
    all_goals decide +kernel
  have htriage : (inDirectory disk directory).triage disk = .ok triage := by
    rw [hworkspace]
    refine triage_eq_ok_iff.2 ⟨documentLog, hread, log, hlog, [], hempty, [], rfl, ?_⟩
    rw [hlogged]
    refine ⟨_, ?_, rfl⟩
    -- This spares the evaluation of the sort.
    rw [Ledger.records_of_pairwise _ (by decide +kernel)]
    decide +kernel
  exact ⟨hsame, htriage, (triage_of_sameInputs hsame).trans htriage⟩

end Workspace

end DoxTriage
