import DoxTriage.Path

/-!
# The file system

The library does not talk to a file system; it computes with a value that stands for one. A `Disk`
says what is found at each location, a location being the list of names on the way down from the
root, and which directory is the current one. A write gives a new disk. So *nothing else changed*
is an equation between two functions, and a history of queries with files changing in between is a
list of disks.

A path is followed step by step. Every directory passed has to exist, also those that `..` leaves
again at once; a slash at the end asks for a directory; and the first thing that goes wrong on the
way is the fault that is reported. Locations are not required to have existing parents: such entries
are never reached, so no operation has to care.

A file system can do more than this one. Here there are no links, so each entry has one location,
and a path that ends in a name leads to an entry of that name. There are no permissions and no
special files, and the room for texts does not run out: a write that fails has changed nothing. What
is said of two files with different names (`Disk.locate_ne_of_namesFile`), of a run that fails
(`Workspace.run_all_or_nothing`) and of a second run (`Workspace.run_again`) rests on these
restrictions. The current directory may have been removed. Then nothing can be reached from it, not
even the directory above it, and it cannot be named from the root (`Disk.currentFault?`).

## Main definitions

* `Disk`: entries by location, and the current directory.
* `Disk.Fault`: what can go wrong on the way to an entry, or with it.
* `Disk.locate`: the location that a path leads to.
* `Disk.currentFault?`: what is wrong with the current directory.
* `Disk.read`, `Disk.write`: the text of a file, and a disk with another text in it.
* `Disk.put`, `Disk.remove`: change the disk without following a path.

## Main results

* `Disk.write_eq_ok`: a successful write changes the entry at one location.
-/

namespace DoxTriage

/-- Where an entry is: the names on the way down from the root. -/
abbrev Location := List Text

/-- The path of a location from the root. -/
def Location.path (location : Location) : Path :=
  ⟨'/' :: Text.join ['/'] location⟩

/-- What is found at a location. A file whose bytes are no UTF-8 has no text to read. -/
inductive Entry where
  | file (text : Text)
  | blob (bytes : List UInt8)
  | directory
  deriving DecidableEq

/-- A file with some bytes. -/
def Entry.ofBytes (bytes : List UInt8) : Entry :=
  match String.fromUTF8? ⟨bytes.toArray⟩ with
  | some text => .file text.toList
  | none => .blob bytes

/-- The file system: what is found where, and where the current directory is or has been. -/
structure Disk where
  entryAt : Location → Option Entry
  current : Location

namespace Disk

/-- What can go wrong with a file. -/
inductive Fault where
  | notFound
  | notDirectory
  | isDirectory
  | nameTooLong
  | nulInPath
  | notText
  deriving DecidableEq, Repr

/-- The wording of a fault. -/
def Fault.message : Fault → Text
  | .notFound => "No such file or directory (os error 2)".toList
  | .notDirectory => "Not a directory (os error 20)".toList
  | .isDirectory => "Is a directory (os error 21)".toList
  | .nameTooLong => "File name too long (os error 36)".toList
  | .nulInPath => "file name contained an unexpected NUL byte".toList
  | .notText => "stream did not contain valid UTF-8".toList

/-- The entry at a location; the root is always a directory. -/
def lookup (disk : Disk) (location : Location) : Option Entry :=
  if location = [] then some .directory else disk.entryAt location

/-- What is wrong with the current directory, if it has been removed. -/
def currentFault? (disk : Disk) : Option Fault :=
  if disk.lookup disk.current = some .directory then none else some .notFound

/-! ### Following a path -/

/-- The names that are taken one after the other. A slash at the end is one more step on the spot,
which only a directory allows. -/
def stepsOf (p : Path) : List Text :=
  (Text.split '/' p.text).filter (· ≠ []) ++ if p.text.getLast? = some '/' then [['.']] else []

/-- Where one step leads to from a location, whatever is on the disk. -/
def lexicalStep (location : Location) (name : Text) : Location :=
  if name = ['.'] then location
  else if name = ['.', '.'] then location.dropLast
  else location ++ [name]

/-- Take one step from a location, which has to be a directory. -/
def step (disk : Disk) (location : Location) (name : Text) : Except Fault Location :=
  match disk.lookup location with
  | some .directory =>
    if 255 < Text.utf8Length name then .error .nameTooLong
    else .ok (lexicalStep location name)
  | some _ => .error .notDirectory
  | none => .error .notFound

/-- Take several steps. -/
def walk (disk : Disk) (location : Location) (names : List Text) : Except Fault Location :=
  names.foldlM disk.step location

/-- Where following a path begins: at the root or in the current directory. -/
def startOf (disk : Disk) (p : Path) : Location :=
  if p.isAbsolute then [] else disk.current

/-- What is wrong with the path itself, whatever is on the disk. -/
def pathFault? (p : Path) : Option Fault :=
  if '\x00' ∈ p.text then some .nulInPath
  else if p.text = [] then some .notFound
  else if 4095 < Text.utf8Length p.text then some .nameTooLong
  else none

/-- The location that a path leads to; there need not be anything at it. -/
def locate (disk : Disk) (p : Path) : Except Fault Location :=
  match pathFault? p with
  | some fault => .error fault
  | none => disk.walk (disk.startOf p) (stepsOf p)

/-- The locations on the way from the root to where a path leads, with those that the path leaves
again. -/
def onTheWay (disk : Disk) (p : Path) : List Location :=
  let start := disk.startOf p
  let stops := (stepsOf p).foldl
    (fun stops name => lexicalStep (stops.headD []) name :: stops) [start]
  (stops ++ (List.range start.length).map start.take).eraseDups

/-! ### Reading and writing -/

/-- The text of the file that a path leads to. -/
def read (disk : Disk) (p : Path) : Except Fault Text :=
  match disk.locate p with
  | .error fault => .error fault
  | .ok location =>
    match disk.lookup location with
    | some (.file text) => .ok text
    | some (.blob _) => .error .notText
    | some .directory => .error .isDirectory
    | none => .error .notFound

/-- The disk with another entry at one location. -/
def set (disk : Disk) (location : Location) (entry : Entry) : Disk :=
  { disk with entryAt := fun other => if other = location then some entry else disk.entryAt other }

/-- The location of the file that a path names for writing: its directory has to exist, and the
last step has to be a name without a slash after it. -/
def target (disk : Disk) (p : Path) : Except Fault Location :=
  match pathFault? p with
  | some fault => .error fault
  | none =>
    let names := (Text.split '/' p.text).filter (· ≠ [])
    match disk.walk (disk.startOf p) names.dropLast, names.getLast? with
    | .error fault, _ => .error fault
    | .ok _, none => .error .isDirectory
    | .ok directory, some name =>
      let isFileName := name ≠ ['.'] ∧ name ≠ ['.', '.'] ∧ p.text.getLast? ≠ some '/'
      match disk.step directory (if isFileName then name else ['.']) with
      | .error fault => .error fault
      | .ok location =>
        if isFileName ∧ disk.lookup location ≠ some .directory then .ok location
        else .error .isDirectory

/-- The disk after the text of a file has been replaced, the file being made if there was none. -/
def write (disk : Disk) (p : Path) (text : Text) : Except Fault Disk :=
  match disk.target p with
  | .error fault => .error fault
  | .ok location => .ok (disk.set location (.file text))

theorem write_eq_ok {disk after : Disk} {p : Path} {text : Text}
    (h : disk.write p text = .ok after) :
    ∃ location, disk.target p = .ok location ∧ after = disk.set location (.file text) := by
  rw [write] at h
  split at h
  · cases h
  · next location hl => cases h; exact ⟨location, hl, rfl⟩

@[simp] theorem entryAt_set (disk : Disk) (location other : Location) (entry : Entry) :
    (disk.set location entry).entryAt other =
      if other = location then some entry else disk.entryAt other := rfl

/-! ### Changing the disk directly -/

/-- The location that a path names, step by step, whatever is on the disk. -/
def named (disk : Disk) (p : Path) : Location :=
  (stepsOf p).foldl lexicalStep (disk.startOf p)

/-- Put an entry at the location that a path names, and directories where they are missing on the
way to it. -/
def put (disk : Disk) (p : Path) (entry : Entry) : Disk :=
  let location := disk.named p
  let onTheWay : Disk :=
    { disk with
      entryAt := fun other =>
        if other.isPrefixOf location && (disk.entryAt other).isNone then some .directory
        else disk.entryAt other }
  onTheWay.set location entry

/-- Remove the entry at the location that a path names, with everything below it. -/
def remove (disk : Disk) (p : Path) : Disk :=
  let location := disk.named p
  { disk with
    entryAt := fun other => if location.isPrefixOf other then none else disk.entryAt other }

end Disk

end DoxTriage
