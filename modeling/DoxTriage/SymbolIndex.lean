import DoxTriage.ClassDocuments
import DoxTriage.Declaration.Members
import DoxTriage.Failure

/-!
# The symbol index

The generator sometimes takes the wrong overload of a method when it checks a comment. The index
finds the declaration that the comment belongs to on its own: the first one after the comment, in
each document that describes the source file. A class that is spread over several documents has one
such candidate per document.

Documents are read when a source file is asked about for the first time. What was read is kept, and
files that change later make no difference; a question that fails leaves nothing behind, so it is
asked anew the next time. An answer therefore depends on the disk *and* on what was asked before,
and a question is a function of both that gives the next index along with its answer.

## Main definitions

* `SymbolIndex`: the documents of source files, and the declarations that are known.
* `SymbolIndex.load`: the declarations of a source file as the disk has them.
* `SymbolIndex.declarations`, `SymbolIndex.nearest`: questions to an index.

## Main results

* `SymbolIndex.declarations_of_known`: what is known is not read again.
* `SymbolIndex.declarations_of_load_error`: a failure leaves the index as it was.
-/

namespace DoxTriage

/-- The documents of source files, the marker that names of source files begin with, and the
declarations of the source files asked about so far, one list per document. -/
structure SymbolIndex where
  documents : ClassDocuments
  marker : Text
  known : List (Text × List (Array Declaration)) := []
  deriving DecidableEq, Repr

namespace SymbolIndex

/-- A question to an index: the answer or a failure, and the index after it. -/
abbrev Query (α : Type) := ExceptT Failure (StateM SymbolIndex) α

/-- The declarations of a source file in one document. -/
def readDocument (disk : Disk) (marker file : Text) (document : Path) :
    Except Failure (Array Declaration) :=
  match disk.readInput document with
  | .error failure => .error failure
  | .ok text =>
    match Declaration.ofDocument marker file text with
    | .error fault => .error (.xml document fault)
    | .ok found => .ok found.toArray

/-- The declarations of a source file as the disk has them, one list per document. The first
document that cannot be read is the failure. -/
def load (disk : Disk) (index : SymbolIndex) (file : Text) :
    Except Failure (List (Array Declaration)) :=
  (index.documents.documentsOf file).mapM (readDocument disk index.marker file)

/-- The declarations of a source file, one list per document. -/
def declarations (disk : Disk) (file : Text) : Query (List (Array Declaration)) :=
  fun index =>
    match index.known.lookup file with
    | some found => (.ok found, index)
    | none =>
      match index.load disk file with
      | .ok found => (.ok found, { index with known := (file, found) :: index.known })
      | .error failure => (.error failure, index)

theorem declarations_of_known {disk : Disk} {file : Text} {index : SymbolIndex}
    {found : List (Array Declaration)} (h : index.known.lookup file = some found) :
    declarations disk file index = (.ok found, index) := by
  simp [declarations, h]

theorem declarations_of_load_error {disk : Disk} {file : Text} {index : SymbolIndex}
    {failure : Failure} (hnew : index.known.lookup file = none)
    (h : index.load disk file = .error failure) :
    declarations disk file index = (.error failure, index) := by
  simp [declarations, hnew, h]

/-- In each document the first declaration after a line, unless it has no parameter list. -/
def candidates (line : Nat) (found : List (Array Declaration)) : List Declaration :=
  (found.filterMap (Declaration.nearestAfter? line)).filter (·.parameters ≠ [])

/-- The candidates for the declaration that a comment on a line of a source file belongs to. -/
def nearest (disk : Disk) (file : Text) (line : Nat) : Query (List Declaration) :=
  candidates line <$> declarations disk file

end SymbolIndex

end DoxTriage
