import DoxTriage.ClassDocuments
import DoxTriage.Settings

/-!
# The workspace

All that the triage reads and writes is below the build directory of a project, at places that the
build fixes: the three logs of the generator, the settings, and the report.

## Main definitions

* `Workspace`: a build directory with its settings.
* `Workspace.inDirectory`, `Workspace.ofCurrent`: the workspace in a directory, or the current one.
* `Workspace.warningLog` and so on: where the files are.
* `Workspace.files`: all of them.
* `Workspace.documents`: the documents that a log of the workspace lists.
-/

namespace DoxTriage

/-- A build directory with its settings. The places of the logs and of the report are no choice of
their own but follow from the directory. A single run can be told to write its report elsewhere
(`Workspace.run`); it reads the logs where they are. -/
structure Workspace where
  directory : Path
  settings : Settings
  deriving DecidableEq, Repr

namespace Workspace

/-- The file of the settings in a build directory. -/
def settingsFile (directory : Path) : Path :=
  directory.join ⟨"doxwarn.toml".toList⟩

/-- The workspace in a build directory. -/
def inDirectory (disk : Disk) (directory : Path) : Workspace :=
  ⟨directory, Settings.load disk (settingsFile directory)⟩

/-- The workspace at the place of the current directory, which is named from the root, whether the
directory is still there or not. -/
def current (disk : Disk) : Workspace :=
  inDirectory disk disk.current.path

/-- The workspace in the current directory, which has to be there to be named. -/
def ofCurrent (disk : Disk) : Except Disk.Fault Workspace :=
  match disk.currentFault? with
  | some fault => .error fault
  | none => .ok (current disk)

/-- The directory of the generator. -/
def generatorDirectory (workspace : Workspace) : Path :=
  workspace.directory.join ⟨"doc/doxygen".toList⟩

/-- The log of warnings. -/
def warningLog (workspace : Workspace) : Path :=
  workspace.generatorDirectory.join ⟨"warnings.log".toList⟩

/-- The log of parameters without a description. -/
def emptyBlockLog (workspace : Workspace) : Path :=
  workspace.generatorDirectory.join ⟨"empty-params.log".toList⟩

/-- The log of documents of source files. -/
def documentLog (workspace : Workspace) : Path :=
  workspace.generatorDirectory.join ⟨"class_methods.log".toList⟩

/-- The report. -/
def report (workspace : Workspace) : Path :=
  workspace.directory.join ⟨"dox_warnings.log".toList⟩

/-- The files that have fixed places. -/
def files (workspace : Workspace) : List Path :=
  [settingsFile workspace.directory, workspace.documentLog, workspace.warningLog,
   workspace.emptyBlockLog, workspace.report]

/-- The documents of source files that the text of a log lists. -/
def documents (workspace : Workspace) (content : Text) : ClassDocuments :=
  ClassDocuments.ofLog workspace.settings.marker workspace.directory content

end Workspace

end DoxTriage
