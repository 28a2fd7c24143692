import DoxTriage.Disk
import DoxTriage.Toml.Document

/-!
# Settings

A project can adapt the triage to itself in three places: where the names of its source files begin,
which extensions its source files have, and what is put between two contexts in the report. The
settings are three sections of a TOML file, each with one field.

Settings are taken as a whole. If anything in the file is wrong, down to a number nobody asks for
that is too large to hold, then nothing in it counts. Sections and fields that are not known are
nobody's business, so that a newer file still works. A section may be written without naming its
field, as an array whose first item is the value.

## Main definitions

* `Settings`: the three settings, with their defaults.
* `Settings.ofTable?`: the settings that a document gives.
* `Settings.load`: the settings of a file, or the defaults.
-/

namespace DoxTriage

/-- What a project can adapt. -/
structure Settings where
  marker : Text := "src/".toList
  extensions : List Text :=
    [".hpp".toList, ".cpp".toList, ".hh".toList, ".cc".toList, ".h".toList, ".c".toList,
     ".cuh".toList, ".cu".toList, ".dox".toList]
  separator : Text := ", ".toList
  deriving DecidableEq, Repr

namespace Settings

/-- The value of the one field that a section has, if the section gives it; nothing if the section
is no section. What else is in the section has to be readable. -/
def fieldOf? (field : Text) : Toml.Value → Option (Option Toml.Value)
  | .table _ entries =>
    if Toml.readableEntries (entries.filter (·.1 ≠ field)) then some (entries.lookup field)
    else none
  | .array items => some items.head?
  | .moment => some none
  | _ => none

/-- A text. -/
def text? : Toml.Value → Option Text
  | .text text => some text
  | _ => none

/-- Several texts. -/
def texts? : Toml.Value → Option (List Text)
  | .array items => items.mapM text?
  | _ => none

/-- A setting: the default, if the document has not the section or the section has not the field.
Nothing, if one of them is of a wrong kind. -/
def setting? {α : Type} (document : Toml.Table) (part field : String)
    (kind : Toml.Value → Option α) (absent : α) : Option α :=
  match document.find? part.toList with
  | none => some absent
  | some value =>
    match fieldOf? field.toList value with
    | none => none
    | some none => some absent
    | some (some value) => kind value

/-- The sections that are known. -/
def sections : List Text :=
  ["paths".toList, "ingest".toList, "report".toList]

/-- The settings that a document gives. -/
def ofTable? (document : Toml.Table) : Option Settings := do
  if ! Toml.readableEntries (document.entries.filter (! sections.contains ·.1)) then failure
  let standard : Settings := {}
  let marker ← setting? document "paths" "source_root_marker" text? standard.marker
  let extensions ← setting? document "ingest" "source_extensions" texts? standard.extensions
  let separator ← setting? document "report" "context_separator" text? standard.separator
  return ⟨marker, extensions, separator⟩

/-- The settings that the text of a file gives. -/
def ofContent? (content : Text) : Option Settings :=
  (Toml.document? content).bind ofTable?

/-- The settings of a file, or the defaults if it cannot be read or makes no sense. -/
def load (disk : Disk) (file : Path) : Settings :=
  match disk.read file with
  | .ok content => (ofContent? content).getD {}
  | .error _ => {}

end Settings

end DoxTriage
