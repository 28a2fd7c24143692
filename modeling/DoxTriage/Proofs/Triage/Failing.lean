import DoxTriage.Proofs.Rule.Shape
import DoxTriage.Proofs.Triage.Accounting
import DoxTriage.Proofs.Warning.EmptyBlock

/-!
# When a triage fails

A triage can fail in six places, some of which are reached only for some records and after other
records have filled the index. What it fails with can be told from the inputs alone. There are five
things that can be wrong with them, each of which has a failure of its own (`Workspace.Offence`),
and the order in which they count is fixed (`Offence.Kind.rank`). The failure is that of the first
thing that is wrong, and if nothing is wrong then the triage succeeds.

The last kind of offence is the one that needs an argument. Only the fifth rule reads documents,
only for the records it recognises; the other rules cannot get in its way, because they do not
recognise such a record; and what the index knows of a file is what the disk has.

## Main definitions

* `SymbolIndex.Rejects`, `SymbolIndex.FirstRejected`: a document that cannot be used.
* `Workspace.Offence`: something is wrong with the inputs.

## Main results

* `SymbolIndex.load_eq_error_iff`: loading fails with the first document that cannot be used.
* `Workspace.triage_fails_iff`: a triage fails with the first thing that is wrong.
-/

namespace DoxTriage

/-! ### Documents that cannot be used -/

namespace SymbolIndex

/-- A document cannot be used for a source file: it cannot be read, or its markup is faulty. -/
inductive Rejects (disk : Disk) (marker file : Text) (document : Path) : Failure → Prop
  | unreadable {failure : Failure} (h : disk.readInput document = .error failure) :
    Rejects disk marker file document failure
  | malformed {text : Text} {fault : Xml.Fault} (h : disk.readInput document = .ok text)
    (hfault : Declaration.ofDocument marker file text = .error fault) :
    Rejects disk marker file document (.xml document fault)

/-- The first of several documents that cannot be used for a source file. -/
def FirstRejected (disk : Disk) (marker file : Text) (documents : List Path)
    (failure : Failure) : Prop :=
  ∃ before document after, documents = before ++ document :: after ∧
    (∀ earlier ∈ before, ∀ other, ¬ Rejects disk marker file earlier other) ∧
      Rejects disk marker file document failure

variable {disk : Disk} {marker file : Text} {failure : Failure}

theorem readDocument_eq_error_iff {document : Path} :
    readDocument disk marker file document = .error failure ↔
      Rejects disk marker file document failure := by
  rw [readDocument]
  constructor
  · intro h
    split at h
    · next hread => cases h; exact .unreadable hread
    · next text hread =>
      split at h
      · next fault hfault => cases h; exact .malformed hread hfault
      · cases h
  · rintro (hread | ⟨hread, hfault⟩)
    · rw [hread]
    · rw [hread]
      simp only [hfault]

theorem readDocument_eq_ok_iff {document : Path} :
    (∃ found, readDocument disk marker file document = .ok found) ↔
      ∀ failure, ¬ Rejects disk marker file document failure := by
  simp only [Except.exists_eq_ok_iff, ne_eq, readDocument_eq_error_iff]

/-- Loading fails with the first document that cannot be used. -/
theorem load_eq_error_iff {index : SymbolIndex} :
    index.load disk file = .error failure ↔
      FirstRejected disk index.marker file (index.documents.documentsOf file) failure := by
  rw [load, mapM_eq_error_iff]
  simp only [FailsFirst, FirstRejected, readDocument_eq_ok_iff, readDocument_eq_error_iff]

theorem load_eq_ok_iff {index : SymbolIndex} :
    (∃ found, index.load disk file = .ok found) ↔
      ∀ document ∈ index.documents.documentsOf file, ∀ failure,
        ¬ Rejects disk index.marker file document failure := by
  rw [load, exists_mapM_eq_ok_iff]
  simp only [readDocument_eq_ok_iff]

end SymbolIndex

/-! ### Complaints that cannot be judged -/

/-- Of the records of some warnings, the least one that complains about an argument and whose
documents cannot all be used; the failure is that of the first such document. -/
structure Record.LeastUnjudged (disk : Disk) (origin : SymbolIndex) (warnings : List Warning)
    (record : Record) (failure : Failure) : Prop where
  collects : record.Collects origin.marker warnings
  complains : ∃ name, Rule.Complains record.headline name
  rejected : SymbolIndex.FirstRejected disk origin.marker record.file
    (origin.documents.documentsOf record.file) failure
  least : ∀ other : Record, other.Collects origin.marker warnings →
    other.toKey < record.toKey → (∃ name, Rule.Complains other.headline name) →
    ∀ document ∈ origin.documents.documentsOf other.file, ∀ rejection,
      ¬ SymbolIndex.Rejects disk origin.marker other.file document rejection

/-- The rules fail on the records of a ledger as they fail on the least one that they cannot
judge. -/
theorem Rule.fst_retain_ledger_eq_error_iff {disk : Disk} {origin : SymbolIndex}
    (hnew : origin.known = []) {warnings : List Warning} {failure : Failure} :
    (retain disk all (Ledger.ofWarnings origin.marker warnings).records origin).1 =
        .error failure ↔
      ∃ record : Record, record.LeastUnjudged disk origin warnings failure := by
  have hfifth : argumentNotFound ∈ all := by decide
  have hok : ∀ record : Record,
      (∃ dropping, verdict disk origin all record = .ok dropping) ↔
        ((∃ name, Complains record.headline name) →
          ∃ found, origin.load disk record.file = .ok found) := by
    intro record
    simp only [Except.exists_eq_ok_iff, ne_eq, verdict_eq_error_iff hnew hfifth, not_and]
    exact forall_comm
  rw [fst_retain_eq_error_iff hnew, failsFirst_iff_of_ascending (Ledger.ascending_records _)]
  refine exists_congr fun record => ?_
  simp only [Ledger.mem_records_iff, verdict_eq_error_iff hnew hfifth, hok,
    SymbolIndex.load_eq_error_iff, SymbolIndex.load_eq_ok_iff]
  constructor
  · rintro ⟨hcollects, ⟨hcomplains, hrejected⟩, hleast⟩
    exact ⟨hcollects, hcomplains, hrejected, hleast⟩
  · intro h
    exact ⟨h.collects, ⟨h.complains, h.rejected⟩, h.least⟩

/-! ### What can be wrong -/

/-- The five things that can be wrong with the inputs of a triage. -/
inductive Offence.Kind where
  | documentLog
  | warningLog
  | emptyBlockLog
  | emptyBlocks
  | documents
  deriving DecidableEq, Repr

/-- The order in which they count. -/
def Offence.Kind.rank : Offence.Kind → Nat
  | .documentLog => 0
  | .warningLog => 1
  | .emptyBlockLog => 2
  | .emptyBlocks => 3
  | .documents => 4

/-- Something is wrong with the inputs, and this is the failure that belongs to it: a log cannot be
read, a line of the log of empty blocks is neither blank nor lists a block, or a complaint about an
argument cannot be judged. -/
inductive Offence (disk : Disk) (workspace : Workspace) : Offence.Kind → Failure → Prop
  | documentLog {failure : Failure} (h : disk.readInput workspace.documentLog = .error failure) :
    Offence disk workspace .documentLog failure
  | warningLog {failure : Failure} (h : disk.readInput workspace.warningLog = .error failure) :
    Offence disk workspace .warningLog failure
  | emptyBlockLog {failure : Failure}
    (h : disk.readInput workspace.emptyBlockLog = .error failure) :
    Offence disk workspace .emptyBlockLog failure
  | emptyBlocks {content : Text} {place : Nat} {line : Text}
    (hread : disk.readInput workspace.emptyBlockLog = .ok content)
    (hfirst : EmptyBlock.FirstMalformed (Text.lines content) place line) :
    Offence disk workspace .emptyBlocks (.malformedLine workspace.emptyBlockLog (place + 1) line)
  | documents {documentLog log emptyBlockLog : Text} {described : List Warning} {record : Record}
    {failure : Failure} (hdocuments : disk.readInput workspace.documentLog = .ok documentLog)
    (hlog : disk.readInput workspace.warningLog = .ok log)
    (hempty : disk.readInput workspace.emptyBlockLog = .ok emptyBlockLog)
    (hdescribed : Warning.ofEmptyBlockLog workspace.settings.extensions workspace.emptyBlockLog
      emptyBlockLog = .ok described)
    (hrecord : record.LeastUnjudged disk (workspace.index (workspace.documents documentLog))
      (Warning.ofLog log ++ described) failure) :
    Offence disk workspace .documents failure

/-- The failure belongs to the first thing that is wrong. -/
structure Offence.First (disk : Disk) (workspace : Workspace) (failure : Failure) (kind : Kind) :
    Prop where
  offence : Offence disk workspace kind failure
  first : ∀ earlier : Kind, earlier.rank < kind.rank → ∀ other,
    ¬ Offence disk workspace earlier other

namespace Offence

variable {disk : Disk} {workspace : Workspace} {failure : Failure} {kind : Kind}

/-- If anything is wrong, then something is the first that is. -/
theorem exists_first (h : Offence disk workspace kind failure) :
    ∃ failure kind, First disk workspace failure kind := by
  induction hrank : kind.rank using Nat.strong_induction_on generalizing kind failure with
  | h rank ih =>
    by_cases hearlier : ∃ earlier : Kind, earlier.rank < kind.rank ∧
        ∃ other, Offence disk workspace earlier other
    · obtain ⟨earlier, hlt, other, hother⟩ := hearlier
      exact ih earlier.rank (hrank ▸ hlt) hother rfl
    · refine ⟨failure, kind, h, fun earlier hlt other hother => ?_⟩
      exact hearlier ⟨earlier, hlt, other, hother⟩

theorem emptyBlocks_iff {content : Text}
    (hread : disk.readInput workspace.emptyBlockLog = .ok content) :
    Offence disk workspace .emptyBlocks failure ↔
      Warning.ofEmptyBlockLog workspace.settings.extensions workspace.emptyBlockLog content =
        .error failure := by
  rw [Warning.ofEmptyBlockLog, Except.map_eq_error_iff, EmptyBlock.ofLog_eq_error_iff]
  constructor
  · rintro (_ | _ | _ | ⟨hread', hfirst⟩ | _)
    rw [hread] at hread'
    cases hread'
    exact ⟨_, _, hfirst, rfl⟩
  · rintro ⟨place, line, hfirst, rfl⟩
    exact .emptyBlocks hread hfirst

namespace First

/-- What counts before the first thing that is wrong is in order. -/
theorem exists_ok (h : First disk workspace failure kind) {earlier : Kind}
    (hlt : earlier.rank < kind.rank) {α : Type} {result : Except Failure α}
    (hresult : ∀ other, result = .error other → Offence disk workspace earlier other) :
    ∃ a, result = .ok a :=
  Except.exists_eq_ok_iff.2 fun other hother => h.first earlier hlt other (hresult other hother)

theorem documentLog_ok (h : First disk workspace failure kind)
    (hlt : Kind.documentLog.rank < kind.rank) :
    ∃ documentLog, disk.readInput workspace.documentLog = .ok documentLog :=
  h.exists_ok hlt fun _ => .documentLog

theorem warningLog_ok (h : First disk workspace failure kind)
    (hlt : Kind.warningLog.rank < kind.rank) :
    ∃ log, disk.readInput workspace.warningLog = .ok log :=
  h.exists_ok hlt fun _ => .warningLog

end First

end Offence

namespace Workspace

variable {disk : Disk} {workspace : Workspace} {failure : Failure}

/-- A triage fails when one of its stages does, after all stages before it. -/
theorem triage_eq_error_iff :
    workspace.triage disk = .error failure ↔
      disk.readInput workspace.documentLog = .error failure ∨
      ∃ documentLog, disk.readInput workspace.documentLog = .ok documentLog ∧
      (disk.readInput workspace.warningLog = .error failure ∨
      ∃ log, disk.readInput workspace.warningLog = .ok log ∧
      (disk.readInput workspace.emptyBlockLog = .error failure ∨
      ∃ emptyBlockLog, disk.readInput workspace.emptyBlockLog = .ok emptyBlockLog ∧
      (Warning.ofEmptyBlockLog workspace.settings.extensions workspace.emptyBlockLog
        emptyBlockLog = .error failure ∨
      ∃ described, Warning.ofEmptyBlockLog workspace.settings.extensions workspace.emptyBlockLog
        emptyBlockLog = .ok described ∧
      (Rule.retain disk Rule.all (Ledger.ofWarnings workspace.settings.marker
          (Warning.ofLog log ++ described)).records
        (workspace.index (workspace.documents documentLog))).1 = .error failure))) := by
  have hreturn : ∀ triage : Triage, ¬ (pure triage : Except Failure Triage) = .error failure :=
    fun triage h => by cases h
  simp only [Workspace.triage, readDocuments, warnings, Except.bind_eq_error_iff,
    Except.map_eq_error_iff, Except.map_eq_ok_iff, hreturn, and_false, exists_false, or_false,
    exists_exists_and_eq_and]

/-- A triage fails as the first thing does that is wrong. -/
theorem triage_of_first {kind : Offence.Kind} (h : Offence.First disk workspace failure kind) :
    workspace.triage disk = .error failure := by
  rw [triage_eq_error_iff]
  have hoffence := h.offence
  cases hoffence with
  | documentLog hfails => exact .inl hfails
  | warningLog hfails =>
    obtain ⟨documentLog, hdocuments⟩ := h.documentLog_ok (by decide)
    exact .inr ⟨documentLog, hdocuments, .inl hfails⟩
  | emptyBlockLog hfails =>
    obtain ⟨documentLog, hdocuments⟩ := h.documentLog_ok (by decide)
    obtain ⟨log, hlog⟩ := h.warningLog_ok (by decide)
    exact .inr ⟨documentLog, hdocuments, .inr ⟨log, hlog, .inl hfails⟩⟩
  | emptyBlocks hempty hfirst =>
    obtain ⟨documentLog, hdocuments⟩ := h.documentLog_ok (by decide)
    obtain ⟨log, hlog⟩ := h.warningLog_ok (by decide)
    have hfails := (Offence.emptyBlocks_iff hempty).1 (.emptyBlocks hempty hfirst)
    exact .inr ⟨documentLog, hdocuments, .inr ⟨log, hlog, .inr ⟨_, hempty, .inl hfails⟩⟩⟩
  | documents hdocuments hlog hempty hdescribed hrecord =>
    have hfails := (Rule.fst_retain_ledger_eq_error_iff rfl).2 ⟨_, hrecord⟩
    exact .inr ⟨_, hdocuments, .inr ⟨_, hlog, .inr ⟨_, hempty, .inr ⟨_, hdescribed, hfails⟩⟩⟩⟩

/-- Whatever a triage fails with, something is wrong. -/
theorem exists_offence_of_triage_eq_error (h : workspace.triage disk = .error failure) :
    ∃ kind, Offence disk workspace kind failure := by
  rw [triage_eq_error_iff] at h
  obtain hfails | ⟨documentLog, hdocuments, h⟩ := h
  · exact ⟨_, .documentLog hfails⟩
  obtain hfails | ⟨log, hlog, h⟩ := h
  · exact ⟨_, .warningLog hfails⟩
  obtain hfails | ⟨emptyBlockLog, hempty, h⟩ := h
  · exact ⟨_, .emptyBlockLog hfails⟩
  obtain hfails | ⟨described, hdescribed, hfails⟩ := h
  · exact ⟨_, (Offence.emptyBlocks_iff hempty).2 hfails⟩
  · let origin := workspace.index (workspace.documents documentLog)
    have hnew : origin.known = [] := rfl
    obtain ⟨record, hrecord⟩ := (Rule.fst_retain_ledger_eq_error_iff hnew).1 hfails
    exact ⟨_, .documents hdocuments hlog hempty hdescribed hrecord⟩

/-- **When a triage fails.** It fails if and only if something is wrong with its inputs, and then
with the failure that belongs to the first thing that is; in every other case it succeeds. -/
theorem triage_fails_iff (disk : Disk) (workspace : Workspace) :
    (∀ failure, workspace.triage disk = .error failure ↔
        ∃ kind, Offence.First disk workspace failure kind) ∧
      ((∃ triage, workspace.triage disk = .ok triage) ↔
        ∀ kind failure, ¬ Offence disk workspace kind failure) := by
  have hfails : ∀ failure, workspace.triage disk = .error failure ↔
      ∃ kind, Offence.First disk workspace failure kind := by
    intro failure
    constructor
    · intro h
      obtain ⟨kind, hoffence⟩ := exists_offence_of_triage_eq_error h
      obtain ⟨first, kind, hfirst⟩ := hoffence.exists_first
      have hsame := (triage_of_first hfirst).symm.trans h
      cases hsame
      exact ⟨kind, hfirst⟩
    · rintro ⟨kind, hfirst⟩
      exact triage_of_first hfirst
  refine ⟨hfails, ?_⟩
  rw [Except.exists_eq_ok_iff]
  constructor
  · intro hnever kind failure hoffence
    obtain ⟨first, kind, hfirst⟩ := hoffence.exists_first
    exact hnever first (triage_of_first hfirst)
  · intro hnone failure h
    obtain ⟨kind, hoffence⟩ := exists_offence_of_triage_eq_error h
    exact hnone kind failure hoffence

end Workspace

end DoxTriage
