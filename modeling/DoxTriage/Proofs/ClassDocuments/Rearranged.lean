import DoxTriage.Proofs.ClassDocuments
import Mathlib.Data.List.Forall2

/-!
# A log of documents in another order

The generator writes the blocks of its log in the order in which it comes upon the source files, and
the documents of a block likewise. In another run it may come upon them in another order. The log is
then put together from the same blocks, and each block has the same lines below its first one.

A source file has the same documents in both logs, but they are told apart by their components
only, and the first spelling counts. So the documents may be spelled differently, and what carries
over is that each document of one log is some document of the other log (`Within`).

## Main definitions

* `ClassDocuments.WrittenBlock`: a block with its lines.
* `ClassDocuments.Rearranged`: a log with its blocks, and the documents in them, in another order.
* `ClassDocuments.Within`: all documents of one list are in another one.

## Main results

* `ClassDocuments.exists_isWritten`: every log is put together from blocks.
* `ClassDocuments.blocks_of_isWritten`: the blocks that are read are the ones that are written.
* `ClassDocuments.Rearranged.within`: a source file has the same documents in another order.
-/

namespace DoxTriage

namespace ClassDocuments

variable {marker file content other : Text} {directory : Path} {above : List Text}

/-! ### Blocks as they are written -/

/-- A block as it is written: the name of a source file, and the lines below it, none of which
begins another block. -/
structure WrittenBlock where
  path : Text
  rows : List Text
  unmarked : ∀ row ∈ rows, ¬ mark <+: row

namespace WrittenBlock

/-- The lines of a block. -/
def lines (block : WrittenBlock) : List Text :=
  (mark ++ block.path) :: block.rows

/-- The documents that some lines list. -/
def documentsIn (directory : Path) (rows : List Text) : List Path :=
  (rows.filter (! Text.isBlankLine ·)).map (rowDocument directory)

/-- What a block says. -/
def read (marker : Text) (directory : Path) (block : WrittenBlock) : DocumentBlock :=
  ⟨sourceName marker (Text.trim block.path), documentsIn directory block.rows⟩

/-- Two blocks with the same lines, in different orders. -/
structure Alike (block other : WrittenBlock) : Prop where
  path_eq : block.path = other.path
  rows_perm : block.rows.Perm other.rows

theorem Alike.refl (block : WrittenBlock) : Alike block block :=
  ⟨rfl, .refl _⟩

end WrittenBlock

/-- A log is put together from lines that stand above all blocks, and blocks. -/
structure IsWritten (content : Text) (above : List Text) (blocks : List WrittenBlock) : Prop where
  unmarked : ∀ line ∈ above, ¬ mark <+: line
  lines_eq : Text.lines content = above ++ blocks.flatMap WrittenBlock.lines

theorem exists_blocks (lines : List Text) :
    ∃ (above : List Text) (blocks : List WrittenBlock), (∀ line ∈ above, ¬ mark <+: line) ∧
      lines = above ++ blocks.flatMap WrittenBlock.lines := by
  induction lines with
  | nil => exact ⟨[], [], by simp, rfl⟩
  | cons line lines ih =>
    obtain ⟨above, blocks, habove, rfl⟩ := ih
    by_cases hmark : mark <+: line
    · obtain ⟨path, rfl⟩ := hmark
      exact ⟨[], ⟨path, above, habove⟩ :: blocks, by simp, rfl⟩
    · exact ⟨line :: above, blocks, List.forall_mem_cons.2 ⟨hmark, habove⟩, rfl⟩

/-- Every log is put together from blocks. -/
theorem exists_isWritten (content : Text) : ∃ above blocks, IsWritten content above blocks := by
  obtain ⟨above, blocks, habove, hlines⟩ := exists_blocks (Text.lines content)
  exact ⟨above, blocks, habove, hlines⟩

/-- Lines that begin no block add their documents to the ones above the first block. -/
theorem foldr_consLine_of_unmarked {rows : List Text} (h : ∀ row ∈ rows, ¬ mark <+: row)
    (log : List Path × List DocumentBlock) :
    rows.foldr (consLine marker directory) log =
      (WrittenBlock.documentsIn directory rows ++ log.1, log.2) := by
  induction rows with
  | nil => rfl
  | cons row rows ih =>
    obtain ⟨hrow, hrows⟩ := List.forall_mem_cons.1 h
    rw [List.foldr_cons, ih hrows, consLine_of_not_mark hrow]
    by_cases hblank : Text.isBlankLine row = true
    · simp [WrittenBlock.documentsIn, hblank]
    · simp [WrittenBlock.documentsIn, hblank]

theorem ofLines_blocks (blocks : List WrittenBlock) :
    ofLines marker directory (blocks.flatMap WrittenBlock.lines) =
      ([], blocks.map (WrittenBlock.read marker directory)) := by
  induction blocks with
  | nil => rfl
  | cons block blocks ih =>
    rw [ofLines] at ih ⊢
    rw [List.flatMap_cons, List.foldr_append, ih, WrittenBlock.lines, List.foldr_cons,
      foldr_consLine_of_unmarked block.unmarked, consLine_of_mark, List.append_nil]
    rfl

/-- The blocks that are read are the ones that are written. -/
theorem blocks_of_isWritten {blocks : List WrittenBlock} (h : IsWritten content above blocks) :
    (ofLog marker directory content).blocks = blocks.map (WrittenBlock.read marker directory) := by
  have hlines : (blocks.flatMap WrittenBlock.lines).foldr (consLine marker directory) ([], []) =
      ([], blocks.map (WrittenBlock.read marker directory)) := ofLines_blocks blocks
  rw [ofLog, h.lines_eq, List.foldr_append, hlines, foldr_consLine_of_unmarked h.unmarked]

/-! ### Another order -/

/-- A log with its blocks, and the lines in them, in another order. -/
inductive Rearranged (content other : Text) : Prop
  | intro {above aboveOther : List Text} {blocks between others : List WrittenBlock}
    (hcontent : IsWritten content above blocks) (hother : IsWritten other aboveOther others)
    (hblocks : blocks.Perm between) (hrows : List.Forall₂ WrittenBlock.Alike between others)

theorem Rearranged.refl (content : Text) : Rearranged content content := by
  obtain ⟨above, blocks, h⟩ := exists_isWritten content
  exact ⟨h, h, .refl _, List.forall₂_same.2 fun block _ => .refl block⟩

theorem perm_listed_of_alike {blocks others : List WrittenBlock}
    (h : List.Forall₂ WrittenBlock.Alike blocks others) :
    (listed (blocks.map (WrittenBlock.read marker directory)) file).Perm
      (listed (others.map (WrittenBlock.read marker directory)) file) := by
  induction h with
  | nil => exact .refl _
  | @cons block other blocks others halike _ ih =>
    have hname : (block.read marker directory).file = (other.read marker directory).file :=
      congrArg (fun path => sourceName marker (Text.trim path)) halike.path_eq
    have hdocuments : (block.read marker directory).documents.Perm
        (other.read marker directory).documents :=
      (halike.rows_perm.filter _).map _
    rw [List.map_cons, List.map_cons, listed_cons, listed_cons, hname]
    refine List.Perm.append ?_ ih
    by_cases hfile : (other.read marker directory).file = file
    · rw [if_pos hfile, if_pos hfile]
      exact hdocuments
    · rw [if_neg hfile, if_neg hfile]

/-- The same documents are listed for a source file, in another order. -/
theorem Rearranged.perm_listed (h : Rearranged content other) (marker : Text) (directory : Path)
    (file : Text) :
    (listed (ofLog marker directory content).blocks file).Perm
      (listed (ofLog marker directory other).blocks file) := by
  obtain ⟨hcontent, hother, hblocks, hrows⟩ := h
  rw [blocks_of_isWritten hcontent, blocks_of_isWritten hother]
  have hmoved := (hblocks.map (WrittenBlock.read marker directory)).filter (·.file = file)
  exact (hmoved.flatMap_right _).trans (perm_listed_of_alike hrows)

/-! ### The same documents -/

/-- All documents of one list are in another one, in some spelling. -/
def Within (documents others : List Path) : Prop :=
  ∀ document ∈ documents, ∃ other ∈ others, document.same other = true

/-- Of each item one like it is left when repetitions are left out. -/
theorem exists_mem_eraseDupsBy {α κ : Type} {same : α → α → Bool} {key : α → κ}
    (hsame : ∀ a b, same a b = true ↔ key a = key b) {a : α} :
    ∀ {items : List α}, a ∈ items → ∃ b ∈ items.eraseDupsBy same, key a = key b
  | [], h => absurd h List.not_mem_nil
  | item :: items, h => by
    rw [List.eraseDupsBy_cons]
    by_cases hitem : key a = key item
    · exact ⟨item, List.mem_cons_self .., hitem⟩
    · have hne : a ≠ item := fun heq => hitem (congrArg key heq)
      have hmem : a ∈ items.filter fun b => same b item = false := by
        rw [List.mem_filter, decide_eq_true_iff, ← Bool.not_eq_true, hsame]
        exact ⟨(List.mem_cons.1 h).resolve_left hne, hitem⟩
      obtain ⟨b, hb, hkey⟩ := exists_mem_eraseDupsBy hsame hmem
      exact ⟨b, List.mem_cons_of_mem _ hb, hkey⟩
termination_by items => items.length
decreasing_by exact Nat.lt_succ_of_le (List.length_filter_le ..)

theorem within_documentsOf {table other : ClassDocuments}
    (h : listed table.blocks file ⊆ listed other.blocks file) :
    Within (table.documentsOf file) (other.documentsOf file) := by
  intro document hdocument
  have hsame : ∀ p q : Path, p.same q = true ↔ p.components = q.components :=
    fun _ _ => Path.same_iff
  obtain ⟨spelling, hspelling, hcomponents⟩ :=
    exists_mem_eraseDupsBy hsame (h (mem_of_mem_eraseDupsBy hdocument))
  exact ⟨spelling, hspelling, (hsame _ _).2 hcomponents⟩

/-- A source file has the same documents in a log in another order. -/
theorem Rearranged.within (h : Rearranged content other) (marker : Text) (directory : Path)
    (file : Text) :
    Within ((ofLog marker directory content).documentsOf file)
        ((ofLog marker directory other).documentsOf file) ∧
      Within ((ofLog marker directory other).documentsOf file)
        ((ofLog marker directory content).documentsOf file) :=
  ⟨within_documentsOf (h.perm_listed marker directory file).subset,
    within_documentsOf (h.perm_listed marker directory file).symm.subset⟩

end ClassDocuments

end DoxTriage
