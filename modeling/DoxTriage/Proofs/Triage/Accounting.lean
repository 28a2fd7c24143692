import DoxTriage.Proofs.Report
import DoxTriage.Proofs.Rule.Retain
import DoxTriage.Proofs.Warning.Ledger
import DoxTriage.Triage

/-!
# The accounts of a triage

A triage is right if every warning of the logs is accounted for: it is in the one record of its key,
and that record is in the report unless a rule drops it. Nothing else is in the report, and the
numbers of the summary are the numbers of these things.

`Triage.Accounts` says this about warnings and a result, without the stages between them. Each stage
has its own law: a ledger shows what collects its warnings, the rules retain what a filter retains,
and the sections of a report put together are what they were made of. A triage that succeeds is
those stages, one after the other (`Workspace.triage_eq_ok_iff`).

## Main definitions

* `Triage.Accounts`: the report and the numbers are right for some warnings.

## Main results

* `Workspace.triage_eq_ok_iff`: a triage succeeds when all of its stages do.
* `Workspace.triage_accounts`: the accounts of a triage are right.
-/

namespace DoxTriage

/-! ### The stages -/

namespace Workspace

variable {disk : Disk} {workspace : Workspace}

/-- A triage succeeds when all of its stages do, and its result is made of theirs. -/
theorem triage_eq_ok_iff {triage : Triage} :
    workspace.triage disk = .ok triage ↔
      ∃ documentLog, disk.readInput workspace.documentLog = .ok documentLog ∧
      ∃ log, disk.readInput workspace.warningLog = .ok log ∧
      ∃ emptyBlockLog, disk.readInput workspace.emptyBlockLog = .ok emptyBlockLog ∧
      ∃ described, Warning.ofEmptyBlockLog workspace.settings.extensions workspace.emptyBlockLog
        emptyBlockLog = .ok described ∧
      let ledger := Ledger.ofWarnings workspace.settings.marker (Warning.ofLog log ++ described)
      ∃ kept, (Rule.retain disk Rule.all ledger.records
          (workspace.index (workspace.documents documentLog))).1 = .ok kept ∧
        Triage.of workspace.settings.separator ledger kept = triage := by
  simp only [Workspace.triage, readDocuments, warnings, Except.bind_eq_ok_iff,
    Except.map_eq_ok_iff]
  constructor
  · rintro ⟨_, ⟨documentLog, hdocuments, rfl⟩, log, hlog, emptyBlockLog, hempty, _,
      ⟨described, hdescribed, rfl⟩, kept, hkept, htriage⟩
    exact ⟨documentLog, hdocuments, log, hlog, emptyBlockLog, hempty, described, hdescribed, kept,
      hkept, Except.ok.inj htriage⟩
  · rintro ⟨documentLog, hdocuments, log, hlog, emptyBlockLog, hempty, described, hdescribed, kept,
      hkept, rfl⟩
    exact ⟨_, ⟨documentLog, hdocuments, rfl⟩, log, hlog, emptyBlockLog, hempty, _,
      ⟨described, hdescribed, rfl⟩, kept, hkept, rfl⟩

end Workspace

/-! ### The report -/

namespace Report

theorem heading_ne_nil (summary : Summary) : heading summary ≠ [] := by
  intro hnil
  unfold heading at hnil
  simp at hnil

/-- Only a report on nothing is empty. -/
theorem render_eq_nil_iff {records : List Record} {summary : Summary} {separator : Text} :
    render records summary separator = [] ↔ records = [] := by
  rw [render]
  split
  · next h => exact iff_of_true rfl h
  · next h =>
    refine iff_of_false (fun hnil => ?_) h
    exact heading_ne_nil summary (List.append_eq_nil_iff.1 hnil).1

end Report

/-! ### The accounts -/

/-- The report and the numbers of a triage are right for some warnings: `kept` is what is reported,
and whether a rule drops a record is found out with a new index. -/
structure Triage.Accounts (disk : Disk) (settings : Settings) (origin : SymbolIndex)
    (warnings : List Warning) (kept : List Record) (triage : Triage) : Prop where
  /-- Each key that occurs has one record, with the contexts of all its occurrences. -/
  existsUnique_record : ∀ key ∈ warnings.map (Warning.key settings.marker),
    ∃! record : Record, record.toKey = key ∧ record.Collects settings.marker warnings
  /-- Some rule drops the record of a key, or they all have been asked and none does. -/
  judged : ∀ record : Record, record.Collects settings.marker warnings →
    (∃ rule ∈ Rule.all, Rule.opinion disk origin record rule = .ok true) ∨
      ∀ rule ∈ Rule.all, Rule.opinion disk origin record rule = .ok false
  /-- What is reported are the records of the keys that no rule drops. -/
  mem_kept : ∀ record, record ∈ kept ↔ record.Collects settings.marker warnings ∧
    ¬ ∃ rule ∈ Rule.all, Rule.opinion disk origin record rule = .ok true
  /-- No key is reported twice. -/
  ascending : Ascending Record.toKey kept
  report_eq : triage.report = Report.render kept triage.summary settings.separator
  shown : (Report.sections kept).flatten = kept
  total_eq : triage.summary.total = warnings.length
  unique_eq : triage.summary.unique = (warnings.map (Warning.key settings.marker)).toFinset.card
  kept_eq : triage.summary.kept = kept.length
  kept_le_unique : triage.summary.kept ≤ triage.summary.unique
  unique_le_total : triage.summary.unique ≤ triage.summary.total
  kept_add_ignored : triage.summary.kept + triage.summary.ignored = triage.summary.unique
  report_eq_nil_iff : triage.report = [] ↔ triage.summary.kept = 0
  kept_eq_zero_iff : triage.summary.kept = 0 ↔ triage.summary.exitStatus = 0

/-- If the rules retain some records of a ledger, then the accounts of the result are right. -/
theorem Triage.accounts_of_retain {disk : Disk} {settings : Settings} {origin : SymbolIndex}
    (hnew : origin.known = []) {warnings : List Warning} {kept : List Record}
    (h : (Rule.retain disk Rule.all (Ledger.ofWarnings settings.marker warnings).records
      origin).1 = .ok kept) :
    Accounts disk settings origin warnings kept
      (Triage.of settings.separator (Ledger.ofWarnings settings.marker warnings) kept) := by
  obtain ⟨hverdict, rfl⟩ := (Rule.fst_retain_eq_ok_iff hnew).1 h
  have hascending := Ledger.ascending_records (Ledger.ofWarnings settings.marker warnings)
  have hkept := hascending.filter (Rule.spares disk origin Rule.all)
  have hle := List.length_filter_le (Rule.spares disk origin Rule.all)
    (Ledger.ofWarnings settings.marker warnings).records
  refine
    { existsUnique_record := fun key hkey => Record.existsUnique_collects hkey
      judged := fun record hrecord => ?_
      mem_kept := fun record => ?_
      ascending := hkept
      report_eq := rfl
      shown := Report.flatten_sections hkept
      total_eq := Ledger.total_ofWarnings
      unique_eq := Ledger.unique_ofWarnings
      kept_eq := rfl
      kept_le_unique := hle
      unique_le_total := Ledger.unique_le_total settings.marker warnings
      kept_add_ignored := Nat.add_sub_cancel' hle
      report_eq_nil_iff := Report.render_eq_nil_iff.trans List.length_eq_zero_iff.symm
      kept_eq_zero_iff := Summary.exitStatus_eq_zero.symm }
  · obtain ⟨dropping, hdropping⟩ := hverdict record (Ledger.mem_records_iff.2 hrecord)
    cases dropping with
    | none => exact .inr ((Rule.verdict_eq_none_iff hnew).1 hdropping)
    | some rule => exact .inl ⟨rule, Rule.of_verdict_eq_some hnew hdropping⟩
  · rw [List.mem_filter, Ledger.mem_records_iff]
    refine and_congr_right fun hrecord => ?_
    obtain ⟨dropping, hdropping⟩ := hverdict record (Ledger.mem_records_iff.2 hrecord)
    exact Rule.spares_iff_of_verdict hnew hdropping

namespace Workspace

/-- **The accounts of a triage.** A triage that succeeds has read the three logs. Each key that
occurs in the warnings has one record, with the contexts of all its occurrences; the report shows
those records that no rule drops, each of them once, and nothing else; and the summary counts the
warnings, their keys, and what is reported. -/
theorem triage_accounts {disk : Disk} {workspace : Workspace} {triage : Triage}
    (h : workspace.triage disk = .ok triage) :
    ∃ documentLog log emptyBlockLog described kept,
      disk.readInput workspace.documentLog = .ok documentLog ∧
      disk.readInput workspace.warningLog = .ok log ∧
      disk.readInput workspace.emptyBlockLog = .ok emptyBlockLog ∧
      Warning.ofEmptyBlockLog workspace.settings.extensions workspace.emptyBlockLog
        emptyBlockLog = .ok described ∧
      Triage.Accounts disk workspace.settings (workspace.index (workspace.documents documentLog))
        (Warning.ofLog log ++ described) kept triage := by
  obtain ⟨documentLog, hdocuments, log, hlog, emptyBlockLog, hempty, described, hdescribed, kept,
    hkept, rfl⟩ := triage_eq_ok_iff.1 h
  exact ⟨documentLog, log, emptyBlockLog, described, kept, hdocuments, hlog, hempty, hdescribed,
    Triage.accounts_of_retain rfl hkept⟩

/-- Four warnings with three keys: one key occurs in two checkouts, one is dropped because the
declaration has the parameter, and one is a parameter without a description. -/
theorem triage_accounts_of_four_warnings :
    let documentLog : Text := "warning:/ci/src/f.hpp\nd.xml\n".toList
    let document : Text := "<memberdef><argsstring>(int a)</argsstring>".toList ++
      "<location file='/ci/src/f.hpp' line='8'/></memberdef>".toList
    let complaint : Text :=
      "argument 'a' of command @param is not found in the argument list of f(int a)".toList
    let log : Text := "doxygen:/ci/src/g.hpp:7: warning: no brief\n  in x.hpp\n".toList ++
      "doxygen:/home/src/g.hpp:7: warning: no brief\n".toList ++
      "doxygen:/ci/src/f.hpp:5: warning: ".toList ++ complaint ++ ['\n']
    let emptyBlockLog : Text := "src/f.hpp:3:  * @param b\n".toList
    let undescribed : Text :=
      "argument 'b' of @param has no description, either add one or remove @param".toList
    let warnings : List Warning := [⟨"/ci/src/g.hpp".toList, 7, "no brief\n  in x.hpp".toList⟩,
      ⟨"/home/src/g.hpp".toList, 7, "no brief".toList⟩,
      ⟨"/ci/src/f.hpp".toList, 5, complaint⟩, ⟨"src/f.hpp".toList, 3, undescribed⟩]
    let workspace : Workspace := ⟨⟨"b".toList⟩, {}⟩
    let disk := ((((⟨fun _ => none, []⟩ : Disk).put workspace.documentLog (.file documentLog)).put
      ⟨"b/d.xml".toList⟩ (.file document)).put workspace.warningLog (.file log)).put
        workspace.emptyBlockLog (.file emptyBlockLog)
    let triage := Triage.of workspace.settings.separator
      (Ledger.ofWarnings workspace.settings.marker warnings)
      [⟨⟨"src/f.hpp".toList, 3, undescribed⟩, []⟩,
        ⟨⟨"src/g.hpp".toList, 7, "no brief".toList⟩, ["in x.hpp".toList]⟩]
    workspace.triage disk = .ok triage ∧ triage.summary = ⟨2, 4, 3, 1⟩ ∧
      ∃ kept, Triage.Accounts disk workspace.settings
        (workspace.index (workspace.documents documentLog)) warnings kept triage := by
  intro documentLog document complaint log emptyBlockLog undescribed warnings workspace disk triage
  have hdocuments : disk.readInput workspace.documentLog = .ok documentLog := by decide +kernel
  have hlog : disk.readInput workspace.warningLog = .ok log := by decide +kernel
  have hempty : disk.readInput workspace.emptyBlockLog = .ok emptyBlockLog := by decide +kernel
  have hlogged : Warning.ofLog log = warnings.take 3 := by decide +kernel
  have hdescribed : Warning.ofEmptyBlockLog workspace.settings.extensions workspace.emptyBlockLog
      emptyBlockLog = .ok (warnings.drop 3) := by decide +kernel
  -- This spares the evaluation of the sort.
  have hrecords := Ledger.records_of_pairwise
    (Ledger.ofWarnings workspace.settings.marker warnings) (by decide +kernel)
  have hsummary : triage.summary = ⟨2, 4, 3, 1⟩ := by
    simp only [triage, Triage.of, Ledger.unique, hrecords]
    decide +kernel
  have htriage : workspace.triage disk = .ok triage := by
    refine triage_eq_ok_iff.2 ⟨documentLog, hdocuments, log, hlog, emptyBlockLog, hempty, _,
      hdescribed, ?_⟩
    rw [hlogged, List.take_append_drop]
    refine ⟨_, ?_, rfl⟩
    rw [hrecords]
    decide +kernel
  obtain ⟨_, _, _, _, kept, hdocuments', hlog', hempty', hdescribed', haccounts⟩ :=
    triage_accounts htriage
  rw [hdocuments, Except.ok.injEq] at hdocuments'
  rw [hlog, Except.ok.injEq] at hlog'
  rw [hempty, Except.ok.injEq] at hempty'
  subst hdocuments' hlog' hempty'
  rw [hdescribed, Except.ok.injEq] at hdescribed'
  rw [hlogged, ← hdescribed', List.take_append_drop] at haccounts
  exact ⟨htriage, hsummary, kept, haccounts⟩

end Workspace

end DoxTriage
