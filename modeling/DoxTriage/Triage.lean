import DoxTriage.Report
import DoxTriage.Rule
import DoxTriage.Warning.EmptyBlock
import DoxTriage.Warning.Log
import DoxTriage.Workspace

/-!
# The triage

From the logs of a workspace to its report: the warnings of both logs go into a ledger, the rules
drop the records that are known to be false, and the report lists the others. Inputs are read in a
fixed order, the documents of source files only as rules ask for them, and the first thing that is
wrong ends the triage.

The report is written last, so a triage that fails leaves an older report in place.

## Main definitions

* `Workspace.triage`: the result of a triage.
* `Workspace.run`: a triage that writes its report.
* `Workspace.nearest`: the declarations that the rules would compare with.
-/

namespace DoxTriage

/-- The result of a triage. -/
structure Triage where
  summary : Summary
  report : Text
  deriving DecidableEq, Repr

/-- The result of a triage in which some records of a ledger are left. -/
def Triage.of (separator : Text) (ledger : Ledger) (kept : List Record) : Triage :=
  let summary := Summary.of ledger.total ledger.unique kept.length
  ⟨summary, Report.render kept summary separator⟩

namespace Workspace

/-- The documents of source files. -/
def readDocuments (disk : Disk) (workspace : Workspace) : Except Failure ClassDocuments :=
  (disk.readInput workspace.documentLog).map workspace.documents

/-- The documents that the log of documents lists. -/
def listed (disk : Disk) (workspace : Workspace) : List Path :=
  match workspace.readDocuments disk with
  | .ok table => table.blocks.flatMap DocumentBlock.documents
  | .error _ => []

/-- An index that has not been asked yet. -/
def index (workspace : Workspace) (documents : ClassDocuments) : SymbolIndex :=
  { documents := documents, marker := workspace.settings.marker }

/-- The warnings of both logs. -/
def warnings (workspace : Workspace) (log emptyBlockLog : Text) : Except Failure (List Warning) :=
  (Warning.ofEmptyBlockLog workspace.settings.extensions workspace.emptyBlockLog
    emptyBlockLog).map (Warning.ofLog log ++ ·)

/-- The result of a triage. -/
def triage (disk : Disk) (workspace : Workspace) : Except Failure Triage := do
  let documents ← workspace.readDocuments disk
  let log ← disk.readInput workspace.warningLog
  let emptyBlockLog ← disk.readInput workspace.emptyBlockLog
  let warnings ← workspace.warnings log emptyBlockLog
  let ledger := Ledger.ofWarnings workspace.settings.marker warnings
  let kept ← (Rule.retain disk Rule.all ledger.records (workspace.index documents)).1
  return Triage.of workspace.settings.separator ledger kept

/-- A triage that writes its report, in its place in the workspace unless in another one, and the
disk after it. The logs are read in their places in any case. -/
def run (disk : Disk) (workspace : Workspace) (report : Path := workspace.report) :
    Except Failure Triage × Disk :=
  match workspace.triage disk with
  | .error failure => (.error failure, disk)
  | .ok triage =>
    match disk.writeOutput report triage.report with
    | .error failure => (.error failure, disk)
    | .ok after => (.ok triage, after)

/-- The candidates for the declaration that a comment on a line of a source file belongs to; the
file may be named by any path to it. -/
def nearest (disk : Disk) (workspace : Workspace) (file : Text) (line : Nat) :
    Except Failure (List Declaration) := do
  let documents ← workspace.readDocuments disk
  (SymbolIndex.nearest disk (sourceName workspace.settings.marker file) line
    (workspace.index documents)).1

end Workspace

end DoxTriage
