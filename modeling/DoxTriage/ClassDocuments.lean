import DoxTriage.Path
import DoxTriage.SourceName
import DoxTriage.Text.Blank

/-!
# Documents of source files

A third log says which documents describe the classes of which source file. It consists of blocks:
a line `warning:FILE`, and after it one document per line. A source file may have several blocks,
under several spellings, and may be listed without any document.

The log is kept as its blocks. What belongs to a source file is then a question about the blocks:
their documents in the order of the log, each one counted where it comes first.

## Main definitions

* `DocumentBlock`: the name of a source file and its documents.
* `ClassDocuments.ofLog`: the blocks of a log.
* `ClassDocuments.documentsOf`: the documents of a source file.
* `ClassDocuments.size`: the number of source files.

## Main results

* `ClassDocuments.mem_documents_of_mem_documentsOf`: what belongs to a source file is listed.
-/

namespace DoxTriage

/-- The name of a source file, and documents that describe its classes. -/
structure DocumentBlock where
  file : Text
  documents : List Path
  deriving DecidableEq, Repr

/-- The blocks of a log, in order. -/
structure ClassDocuments where
  blocks : List DocumentBlock := []
  deriving DecidableEq, Repr

namespace ClassDocuments

/-- How the first line of a block begins. -/
def mark : Text := "warning:".toList

/-- The documents listed before the first block, and the blocks, of a log that has one more line in
front. Documents are taken from the build directory. -/
def consLine (marker : Text) (buildDirectory : Path) (line : Text)
    (log : List Path × List DocumentBlock) : List Path × List DocumentBlock :=
  match mark.isPrefixOf? line with
  | some file => ([], ⟨sourceName marker (Text.trim file), log.1⟩ :: log.2)
  | none =>
    if Text.isBlankLine line then log
    else (buildDirectory.join ⟨Text.trim line⟩ :: log.1, log.2)

/-- The blocks of a log. What is listed before the first block belongs to no source file. -/
def ofLog (marker : Text) (buildDirectory : Path) (content : Text) : ClassDocuments :=
  ⟨((Text.lines content).foldr (consLine marker buildDirectory) ([], [])).2⟩

/-- The documents of a source file, in the order of the log. Of two spellings of one path the first
one counts. -/
def documentsOf (table : ClassDocuments) (file : Text) : List Path :=
  ((table.blocks.filter (·.file = file)).flatMap DocumentBlock.documents).eraseDupsBy Path.same

theorem mem_of_mem_eraseDupsBy {α : Type} {same : α → α → Bool} {a : α} :
    ∀ {items : List α}, a ∈ items.eraseDupsBy same → a ∈ items
  | [], h => h
  | item :: items, h => by
    rw [List.eraseDupsBy_cons, List.mem_cons] at h
    obtain rfl | h := h
    · exact List.mem_cons_self ..
    · exact List.mem_cons_of_mem _ (List.mem_filter.1 (mem_of_mem_eraseDupsBy h)).1
termination_by items => items.length
decreasing_by exact Nat.lt_succ_of_le (List.length_filter_le ..)

/-- The documents of a source file are listed in some block. -/
theorem mem_documents_of_mem_documentsOf {table : ClassDocuments} {file : Text} {document : Path}
    (h : document ∈ table.documentsOf file) :
    document ∈ table.blocks.flatMap DocumentBlock.documents := by
  obtain ⟨block, hblock, hdocument⟩ := List.mem_flatMap.1 (mem_of_mem_eraseDupsBy h)
  exact List.mem_flatMap.2 ⟨block, (List.mem_filter.1 hblock).1, hdocument⟩

/-- The number of source files that have a block. -/
def size (table : ClassDocuments) : Nat :=
  (table.blocks.map DocumentBlock.file).eraseDups.length

end ClassDocuments

end DoxTriage
