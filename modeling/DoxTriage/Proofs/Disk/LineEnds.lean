import DoxTriage.Proofs.Disk
import DoxTriage.Proofs.Text.LineEnds

/-!
# Files with other line ends

When the line ends of some files are others, every path leads where it led, with the same fault if
it leads nowhere, since a file is in the place of a file. A path that leads elsewhere is read as
before. A path that leads to one of the files is read with the other line ends; it need not be the
path by which the file was named.

Whichever it is, the lines are the same (`Disk.exists_spelling`).

## Main definitions

* `Disk.withReturns`: the disk with returns before the line feeds of some files.
* `Disk.Apart`: a path leads to none of some files.
* `Disk.Plain`: some files have no returns.

## Main results

* `Disk.locate_withReturns`: a path leads where it led.
* `Disk.readInput_withReturns_of_apart`: other files are read as before.
* `Disk.exists_spelling`: all inputs have the same lines.
-/

namespace DoxTriage

/-- The entry with returns before the line feeds of its text. -/
def Entry.withReturns : Entry → Entry
  | .file text => .file (Text.withReturns text)
  | .blob bytes => .blob bytes
  | .directory => .directory

namespace Disk

variable {disk : Disk} {files : List Path} {p : Path}

/-- The disk with returns before the line feeds of the files that some paths lead to. -/
def withReturns (disk : Disk) (files : List Path) : Disk :=
  { disk with
    entryAt := fun location =>
      if ∃ file ∈ files, disk.locate file = .ok location then
        (disk.entryAt location).map Entry.withReturns
      else disk.entryAt location }

theorem lookup_withReturns (disk : Disk) (files : List Path) (location : Location) :
    (disk.withReturns files).lookup location =
      if ∃ file ∈ files, disk.locate file = .ok location then
        (disk.lookup location).map Entry.withReturns
      else disk.lookup location := by
  rw [lookup, lookup]
  by_cases hroot : location = []
  · rw [if_pos hroot, if_pos hroot]
    split <;> rfl
  · rw [if_neg hroot, if_neg hroot]
    rfl

/-! ### Following a path -/

theorem step_withReturns (disk : Disk) (files : List Path) (location : Location) (name : Text) :
    (disk.withReturns files).step location name = disk.step location name := by
  rw [step, step, lookup_withReturns]
  by_cases hchanged : ∃ file ∈ files, disk.locate file = .ok location
  · rw [if_pos hchanged]
    rcases disk.lookup location with _ | entry
    · rfl
    · cases entry <;> rfl
  · rw [if_neg hchanged]

theorem locate_withReturns (disk : Disk) (files : List Path) (p : Path) :
    (disk.withReturns files).locate p = disk.locate p := by
  have hstep : (disk.withReturns files).step = disk.step :=
    funext fun location => funext fun name => step_withReturns disk files location name
  rw [locate, locate, walk, walk, hstep]
  rfl

/-! ### Reading -/

/-- The path leads to none of the files that some paths lead to. -/
def Apart (disk : Disk) (files : List Path) (p : Path) : Prop :=
  ∀ file ∈ files, ∀ location, disk.locate file = .ok location → disk.locate p ≠ .ok location

/-- A path that leads to none of the files is read as before. -/
theorem read_withReturns_of_apart (h : disk.Apart files p) :
    (disk.withReturns files).read p = disk.read p := by
  rw [read, read, locate_withReturns]
  cases hlocate : disk.locate p with
  | error fault => rfl
  | ok location =>
    have hapart : ¬ ∃ file ∈ files, disk.locate file = .ok location := by
      rintro ⟨file, hfile, hsame⟩
      exact h file hfile location hsame hlocate
    simp only [lookup_withReturns, if_neg hapart]

/-- A path that leads to one of the files is read with returns. -/
theorem read_withReturns_of_mem {file : Path} (hfile : file ∈ files)
    (hsame : disk.locate file = disk.locate p) :
    (disk.withReturns files).read p = (disk.read p).map Text.withReturns := by
  rw [read, read, locate_withReturns]
  cases hlocate : disk.locate p with
  | error fault => rfl
  | ok location =>
    have hchanged : ∃ file ∈ files, disk.locate file = .ok location :=
      ⟨file, hfile, hsame.trans hlocate⟩
    simp only [lookup_withReturns, if_pos hchanged]
    rcases disk.lookup location with _ | entry
    · rfl
    · cases entry <;> rfl

theorem readInput_withReturns_of_apart (h : disk.Apart files p) :
    (disk.withReturns files).readInput p = disk.readInput p := by
  rw [readInput, readInput, read_withReturns_of_apart h]

theorem readInput_eq_map {other : Disk} {f : Text → Text} (h : other.read p = (disk.read p).map f) :
    other.readInput p = (disk.readInput p).map f := by
  rw [readInput, readInput, h]
  cases disk.read p with
  | ok text => rfl
  | error fault => cases fault <;> rfl

/-- The files have no returns of their own. -/
def Plain (disk : Disk) (files : List Path) : Prop :=
  ∀ file ∈ files, ∀ content, disk.read file = .ok content → '\r' ∉ content

/-- **All inputs have the same lines**, if the files have no returns of their own. An input that
cannot be read fails as before. -/
theorem exists_spelling (h : disk.Plain files) (p : Path) :
    ∃ spelling : Text → Text,
      (disk.withReturns files).readInput p = (disk.readInput p).map spelling ∧
        ∀ content, disk.readInput p = .ok content →
          Text.lines (spelling content) = Text.lines content := by
  by_cases hapart : disk.Apart files p
  · refine ⟨id, ?_, fun _ _ => rfl⟩
    rw [readInput_withReturns_of_apart hapart]
    cases disk.readInput p <;> rfl
  · rw [Apart] at hapart
    push Not at hapart
    obtain ⟨file, hfile, location, hlocate, hp⟩ := hapart
    have hsame : disk.locate file = disk.locate p := hlocate.trans hp.symm
    refine ⟨Text.withReturns, readInput_eq_map (read_withReturns_of_mem hfile hsame), ?_⟩
    intro content hcontent
    have hread : disk.read file = .ok content := by
      rw [read, hsame, ← read, ← readInput_eq_ok]
      exact hcontent
    exact Text.lines_withReturns (h file hfile content hread)

end Disk

end DoxTriage
