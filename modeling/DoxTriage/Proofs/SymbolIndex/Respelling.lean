import DoxTriage.Proofs.Declaration.Respelling
import DoxTriage.Proofs.SymbolIndex.Question

/-!
# Questions to the index that do not depend on how paths are written

An index that is asked on two disks reads the same documents on both, with other paths in them. It
gets the same declarations, or the same failure but for the places of a fault in the text of a
document, which move when a path before it is longer. So it gives the same answer and knows the same
afterwards; and this is kept when one question follows another (`SymbolIndex.Query.Agree`).

## Main definitions

* `Failure.Alike`, `SameResult`: failures that differ in nothing but places, and results that are
  the same but for that.
* `Disk.SameDocuments`: documents that are the same on two disks but for paths.
* `SymbolIndex.Query.Agree`: two computations that ask the same and get the same answers.

## Main results

* `SymbolIndex.declarations_agree`, `SymbolIndex.nearest_agree`: declarations on two disks.
-/

namespace DoxTriage

variable {marker : Text}

/-! ### Failures -/

/-- A failure with the places in the text of a document left out. -/
def Failure.withoutPlaces : Failure → Failure
  | .xml document fault => .xml document fault.withoutPlaces
  | failure => failure

/-- Two failures that differ in nothing but places in the text of a document. -/
def Failure.Alike (failure other : Failure) : Prop :=
  failure.withoutPlaces = other.withoutPlaces

/-- Two results are the same, or the failures are alike. -/
abbrev SameResult {α : Type} (result other : Except Failure α) : Prop :=
  Except.Agree Failure.Alike (· = ·) result other

/-! ### The index -/

/-- A document is read from both disks, with other paths in it, or from neither, for the same
reason. -/
def Disk.SameDocument (marker : Text) (disk other : Disk) (document : Path) : Prop :=
  Except.Agree (· = ·) (Xml.Respelled marker) (disk.readInput document) (other.readInput document)

/-- The documents that are listed are the same on both disks, but for paths. -/
def Disk.SameDocuments (marker : Text) (disk other : Disk) (documents : ClassDocuments) : Prop :=
  ∀ document ∈ documents.blocks.flatMap DocumentBlock.documents,
    Disk.SameDocument marker disk other document

namespace SymbolIndex

variable {disk other : Disk} {documents : ClassDocuments}

theorem readDocument_eq (disk : Disk) (marker file : Text) (document : Path) :
    readDocument disk marker file document = disk.readInput document >>= fun text =>
      ((Declaration.ofDocument marker file text).mapError (.xml document)).map List.toArray := by
  rw [readDocument]
  cases disk.readInput document with
  | error failure => rfl
  | ok text =>
    dsimp only
    change _ =
      ((Declaration.ofDocument marker file text).mapError (Failure.xml document)).map List.toArray
    cases Declaration.ofDocument marker file text <;> rfl

theorem readDocument_agree {document : Path} (h : Disk.SameDocument marker disk other document)
    (file : Text) :
    SameResult (readDocument disk marker file document)
      (readDocument other marker file document) := by
  rw [readDocument_eq, readDocument_eq]
  have htext : Except.Agree Failure.Alike (Xml.Respelled marker) (disk.readInput document)
      (other.readInput document) :=
    h.mono (fun _ _ => congrArg Failure.withoutPlaces) fun _ _ => id
  refine htext.bind fun text later hrespelled => ?_
  have hfound : SameResult ((Declaration.ofDocument marker file text).mapError (.xml document))
      ((Declaration.ofDocument marker file later).mapError (.xml document)) :=
    (Declaration.ofDocument_respelled hrespelled file).mapError fun _ _ halike =>
      congrArg (Failure.xml document) halike
  refine hfound.map ?_
  rintro found _ rfl
  rfl

/-- Two computations ask the same of every index on some documents, and get the same answers. -/
def Query.Agree (documents : ClassDocuments) (marker : Text) {α : Type} (query other : Query α) :
    Prop :=
  ∀ index : SymbolIndex, index.documents = documents → index.marker = marker →
    SameResult (query index).1 (other index).1 ∧ (query index).2 = (other index).2 ∧
      (query index).2.documents = documents ∧ (query index).2.marker = marker

namespace Query.Agree

variable {α β : Type}

theorem pure (a : α) : Query.Agree documents marker (Pure.pure a) (Pure.pure a) :=
  fun _ hdocuments hmarker => ⟨.ok rfl, rfl, hdocuments, hmarker⟩

theorem bind {query other : Query α} {next later : α → Query β}
    (h : Query.Agree documents marker query other)
    (hnext : ∀ a, Query.Agree documents marker (next a) (later a)) :
    Query.Agree documents marker (query >>= next) (other >>= later) := by
  intro index hdocuments hmarker
  have hindex := h index hdocuments hmarker
  rw [bind_apply, bind_apply]
  -- what the two computations have come to
  generalize query index = answer, other index = later at hindex ⊢
  obtain ⟨result, after⟩ := answer
  obtain ⟨result', after'⟩ := later
  obtain ⟨hresult, rfl, hafter, hkept⟩ := hindex
  cases hresult with
  | ok hsame =>
    obtain rfl := hsame
    exact hnext _ after hafter hkept
  | error halike => exact ⟨.error halike, rfl, hafter, hkept⟩

theorem map {query other : Query α} (h : Query.Agree documents marker query other) (f : α → β) :
    Query.Agree documents marker (f <$> query) (f <$> other) := by
  rw [map_eq_pure_bind, map_eq_pure_bind]
  exact h.bind fun a => pure (f a)

end Query.Agree

theorem declarations_agree (h : Disk.SameDocuments marker disk other documents) (file : Text) :
    Query.Agree documents marker (declarations disk file) (declarations other file) := by
  intro index hdocuments hmarker
  cases hknown : index.known.lookup file with
  | some found =>
    rw [declarations_of_known hknown, declarations_of_known hknown]
    exact ⟨.ok rfl, rfl, hdocuments, hmarker⟩
  | none =>
    have hload : SameResult (index.load disk file) (index.load other file) := by
      refine Except.Agree.mapM fun document hdocument => ?_
      rw [hmarker]
      refine readDocument_agree (h document ?_) file
      rw [← hdocuments]
      exact ClassDocuments.mem_documents_of_mem_documentsOf hdocument
    rw [declarations, declarations, hknown]
    dsimp only
    generalize index.load disk file = found, index.load other file = later at hload ⊢
    cases hload with
    | ok hsame =>
      obtain rfl := hsame
      exact ⟨.ok rfl, rfl, hdocuments, hmarker⟩
    | error halike => exact ⟨.error halike, rfl, hdocuments, hmarker⟩

theorem nearest_agree (h : Disk.SameDocuments marker disk other documents)
    (file : Text) (line : Nat) :
    Query.Agree documents marker (nearest disk file line) (nearest other file line) :=
  (declarations_agree h file).map (candidates line)

end SymbolIndex

end DoxTriage
