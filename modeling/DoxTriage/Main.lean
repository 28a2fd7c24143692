import DoxTriage.Program

/-!
# Running the program

The program itself is a function on disks. To run it, the part of the file system that it may ask
about is read beforehand: the files of the workspace, then the documents that its log lists, each
with the directories on the way. Afterwards the report is written, if it is another one, and only
then is anything printed. A file system may refuse the report for reasons that a disk does not know
of; this is a failure like others.

## Main definitions

* `FileSystem.snapshot`: a disk that agrees with the file system along some paths.
* `main`: run the program.
-/

namespace DoxTriage

namespace FileSystem

/-- What is at a location. A file that may not be read has no text. -/
def entryAt (location : Location) : IO (Option Entry) := do
  try
    let bytes ← IO.FS.readBinFile (String.ofList location.path.text)
    return some (Entry.ofBytes bytes.toList)
  catch
    | .noFileOrDirectory .. => return none
    | .inappropriateType .. => return some .directory
    | _ => return some (.blob [])

/-- Read what is at a location into a disk, unless it is there already. -/
def look (disk : Disk) (location : Location) : IO Disk := do
  if (disk.entryAt location).isSome then return disk
  match ← entryAt location with
  | some entry => return disk.set location entry
  | none => return disk

/-- A disk with what the file system has along some paths. -/
def snapshot (disk : Disk) (paths : List Path) : IO Disk :=
  ((paths.flatMap disk.onTheWay).eraseDups.filter fun location =>
    location.all fun name => ! name.contains '\x00').foldlM look disk

/-- A disk of which only the current directory is known. A directory that has been removed, or that
cannot be named for another reason, is said to be in a place that no name leads to. -/
def unread : IO Disk := do
  let nothing (current : Location) : Disk := { entryAt := fun _ => none, current := current }
  try
    let current := (← IO.currentDir).toString.toList
    let location := (Text.split '/' current).filter (· ≠ [])
    return (nothing location).set location .directory
  catch _ => return nothing [['\x00']]

end FileSystem

/-- A disk with all that a request may ask about. -/
def Request.inspect (request : Request) : IO Disk := do
  let paths (disk : Disk) (listing : Workspace → List Path) : List Path :=
    (request.workspace? disk).elim [] listing
  let disk ← FileSystem.unread
  let disk ← FileSystem.snapshot disk (paths disk Workspace.files)
  FileSystem.snapshot disk (paths disk (Workspace.listed disk))

/-- Write the report of a workspace, if the disk after the program has another one than before. -/
def Request.store (request : Request) (before after : Disk) : IO Unit := do
  match request.workspace? before with
  | none => return
  | some workspace =>
    match before.target workspace.report with
    | .error _ => return
    | .ok location =>
      match after.entryAt location with
      | some (.file text) =>
        if before.entryAt location ≠ some (.file text) then
          IO.FS.writeFile (String.ofList location.path.text) (String.ofList text)
      | _ => return

end DoxTriage

open DoxTriage in
/-- Run the program. -/
def main (arguments : List String) : IO UInt32 := do
  let request := Request.ofArguments (arguments.map String.toList)
  let before ← request.inspect
  let (outcome, after) := request.perform before
  let outcome ←
    try
      request.store before after
      pure outcome
    catch refusal => pure (Outcome.ofRefusal (toString refusal).toList)
  IO.print (String.ofList outcome.output)
  if let some line := outcome.diagnosticLine? then IO.eprint (String.ofList line)
  return outcome.status.toUInt32
