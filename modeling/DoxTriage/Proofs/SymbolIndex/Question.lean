import DoxTriage.SymbolIndex

/-!
# What a question does to an index

The two questions of the interface go through one function, `declarations`, and that function has
three outcomes: it knows the answer, it finds the answer out and knows it from then on, or it fails
and knows nothing new. `declarations_cases` says so once. Everything that is proved about a sequence
of questions is proved from it, and no other proof opens the function.

## Faithful indices

While the disk stays as it is, an index that was new at first only knows what the disk has. Such an
index answers like the new one, so *when* a question is asked makes no difference. This carries over
from the two questions to whatever is computed by asking: `Query.Settled` is the statement about a
computation, and it is closed under sequencing.

## Main definitions

* `SymbolIndex.Question`, `SymbolIndex.Answer`: the two questions, as data.
* `SymbolIndex.Faithful`: an index that only knows what another one would load.
* `SymbolIndex.Query.Settled`: a computation whose result does not depend on what is known.

## Main results

* `SymbolIndex.declarations_cases`: the three outcomes.
* `SymbolIndex.Query.Settled.bind`: sequencing keeps a result settled.
* `SymbolIndex.settled_nearest`: a question is settled.
-/

namespace DoxTriage

namespace SymbolIndex

/-! ### Computations that ask -/

namespace Query

variable {α β : Type}

@[simp] theorem pure_apply (a : α) (index : SymbolIndex) :
    (pure a : Query α) index = (.ok a, index) := rfl

theorem bind_apply (query : Query α) (next : α → Query β) (index : SymbolIndex) :
    (query >>= next) index =
      match query index with
      | (.ok a, after) => next a after
      | (.error failure, after) => (.error failure, after) := by
  change (ExceptT.bindCont next (query index).1) (query index).2 = _
  rcases query index with ⟨_ | a, after⟩ <;> rfl

@[simp] theorem map_apply (f : α → β) (query : Query α) (index : SymbolIndex) :
    (f <$> query : Query β) index = ((query index).1.map f, (query index).2) := by
  rw [map_eq_pure_bind, bind_apply]
  rcases query index with ⟨_ | a, after⟩ <;> rfl

end Query

/-! ### The outcomes of a question -/

theorem load_congr {index other : SymbolIndex} (hdocuments : index.documents = other.documents)
    (hmarker : index.marker = other.marker) (disk : Disk) (file : Text) :
    index.load disk file = other.load disk file := by
  rw [load, load, hdocuments, hmarker]

/-- **The outcomes of a question**: the answer is known, or it is loaded and known from then on, or
loading fails and the index stays as it was. -/
theorem declarations_cases (disk : Disk) (file : Text) (index : SymbolIndex) :
    (∃ found, index.known.lookup file = some found ∧
      declarations disk file index = (.ok found, index)) ∨
    (∃ found, index.known.lookup file = none ∧ index.load disk file = .ok found ∧
      declarations disk file index =
        (.ok found, { index with known := (file, found) :: index.known })) ∨
    (∃ failure, index.known.lookup file = none ∧ index.load disk file = .error failure ∧
      declarations disk file index = (.error failure, index)) := by
  cases hknown : index.known.lookup file with
  | some found => exact .inl ⟨found, rfl, declarations_of_known hknown⟩
  | none =>
    cases hload : index.load disk file with
    | ok found => exact .inr (.inl ⟨found, rfl, rfl, by simp [declarations, hknown, hload]⟩)
    | error failure =>
      exact .inr (.inr ⟨failure, rfl, rfl, declarations_of_load_error hknown hload⟩)

/-- What is known is the answer, and what is not known is loaded. -/
theorem fst_declarations (disk : Disk) (file : Text) (index : SymbolIndex) :
    (declarations disk file index).1 =
      match index.known.lookup file with
      | some found => .ok found
      | none => index.load disk file := by
  rcases declarations_cases disk file index with ⟨found, hknown, h⟩ | ⟨found, hknown, hload, h⟩ |
    ⟨failure, hknown, hload, h⟩
  · rw [h, hknown]
  · rw [h, hknown, hload]
  · rw [h, hknown, hload]

theorem fst_declarations_of_unknown {disk : Disk} {file : Text} {index : SymbolIndex}
    (h : index.known.lookup file = none) :
    (declarations disk file index).1 = index.load disk file := by
  rw [fst_declarations, h]

theorem documents_declarations (disk : Disk) (file : Text) (index : SymbolIndex) :
    (declarations disk file index).2.documents = index.documents ∧
      (declarations disk file index).2.marker = index.marker := by
  rcases declarations_cases disk file index with ⟨_, _, h⟩ | ⟨_, _, _, h⟩ | ⟨_, _, _, h⟩ <;>
    rw [h] <;> exact ⟨rfl, rfl⟩

/-! ### Questions as data -/

/-- A question to an index: all declarations of a source file, or the candidates after a line. -/
inductive Question where
  | declarations (file : Text)
  | nearest (file : Text) (line : Nat)
  deriving DecidableEq, Repr

/-- What a question is answered with. -/
inductive Answer where
  | declarations (found : List (Array Declaration))
  | candidates (found : List Declaration)
  deriving DecidableEq, Repr

namespace Question

/-- The source file that a question is about. -/
def file : Question → Text
  | .declarations file => file
  | .nearest file _ => file

/-- The answer to a question, from the declarations of its source file. -/
def answerFrom : Question → List (Array Declaration) → Answer
  | .declarations _, found => .declarations found
  | .nearest _ line, found => .candidates (SymbolIndex.candidates line found)

/-- Ask a question. -/
def ask (disk : Disk) : Question → Query Answer
  | .declarations file => .declarations <$> SymbolIndex.declarations disk file
  | .nearest file line => .candidates <$> SymbolIndex.nearest disk file line

/-- Both questions ask for the declarations of a source file and then compute. -/
theorem ask_eq (disk : Disk) (question : Question) :
    question.ask disk = question.answerFrom <$> SymbolIndex.declarations disk question.file := by
  cases question with
  | declarations file => rfl
  | nearest file line =>
    change Answer.candidates <$> (SymbolIndex.candidates line <$> _) = _
    rw [← comp_map]
    rfl

theorem ask_apply (disk : Disk) (question : Question) (index : SymbolIndex) :
    question.ask disk index =
      ((SymbolIndex.declarations disk question.file index).1.map question.answerFrom,
        (SymbolIndex.declarations disk question.file index).2) := by
  rw [ask_eq, Query.map_apply]

/-- Two indices that agree on the source file of a question give it one answer. -/
theorem fst_ask_congr {disk : Disk} {question : Question} {index other : SymbolIndex}
    (hknown : index.known.lookup question.file = other.known.lookup question.file)
    (hload : index.load disk question.file = other.load disk question.file) :
    (question.ask disk index).1 = (question.ask disk other).1 := by
  rw [ask_apply, ask_apply, fst_declarations, fst_declarations, hknown, hload]

end Question

/-! ### Faithful indices -/

/-- An index that knows only what another one would load from the disk. -/
structure Faithful (disk : Disk) (origin index : SymbolIndex) : Prop where
  documents_eq : index.documents = origin.documents
  marker_eq : index.marker = origin.marker
  load_of_known : ∀ {file found}, index.known.lookup file = some found →
    origin.load disk file = .ok found

/-- A new index is faithful to itself. -/
theorem Faithful.of_new (disk : Disk) {origin : SymbolIndex} (h : origin.known = []) :
    Faithful disk origin origin :=
  ⟨rfl, rfl, fun hknown => by rw [h] at hknown; cases hknown⟩

/-- A faithful index answers what loading would answer. -/
theorem Faithful.fst_declarations {disk : Disk} {origin index : SymbolIndex}
    (h : Faithful disk origin index) (file : Text) :
    (declarations disk file index).1 = origin.load disk file := by
  rw [SymbolIndex.fst_declarations]
  cases hknown : index.known.lookup file with
  | some found => rw [h.load_of_known hknown]
  | none => exact load_congr h.documents_eq h.marker_eq disk file

/-- **The step**: a question leaves an index faithful. -/
theorem Faithful.snd_declarations {disk : Disk} {origin index : SymbolIndex}
    (h : Faithful disk origin index) (file : Text) :
    Faithful disk origin (declarations disk file index).2 := by
  rcases declarations_cases disk file index with ⟨found, _, hd⟩ | ⟨found, _, hload, hd⟩ |
    ⟨failure, _, _, hd⟩
  · rw [hd]; exact h
  · rw [hd]
    refine ⟨h.documents_eq, h.marker_eq, fun {other found'} hknown => ?_⟩
    rw [List.lookup_cons] at hknown
    split at hknown
    · next hsame =>
      cases hknown
      rw [eq_of_beq hsame, ← load_congr h.documents_eq h.marker_eq, hload]
    · exact h.load_of_known hknown
  · rw [hd]; exact h

namespace Query

variable {α β : Type}

/-- Asked by any faithful index, the computation has this result and leaves the index faithful. -/
def Settled (disk : Disk) (origin : SymbolIndex) (query : Query α) (result : Except Failure α) :
    Prop :=
  ∀ index, Faithful disk origin index →
    (query index).1 = result ∧ Faithful disk origin (query index).2

theorem Settled.pure (disk : Disk) (origin : SymbolIndex) (a : α) :
    Settled disk origin (Pure.pure a) (.ok a) :=
  fun _ h => ⟨rfl, h⟩

/-- Sequencing keeps a result settled. -/
theorem Settled.bind {disk : Disk} {origin : SymbolIndex} {query : Query α} {next : α → Query β}
    {result : Except Failure α} {results : α → Except Failure β}
    (h : Settled disk origin query result)
    (hnext : ∀ a, result = .ok a → Settled disk origin (next a) (results a)) :
    Settled disk origin (query >>= next) (result >>= results) := by
  intro index hindex
  obtain ⟨hresult, hafter⟩ := h index hindex
  rw [bind_apply]
  rcases hquery : query index with ⟨_ | a, after⟩
  · rw [hquery] at hresult hafter
    exact ⟨by rw [← hresult]; rfl, hafter⟩
  · rw [hquery] at hresult hafter
    obtain ⟨hfst, hsnd⟩ := hnext a hresult.symm after hafter
    exact ⟨by rw [← hresult]; exact hfst, hsnd⟩

/-- A settled result is the one that a new index gives. -/
theorem Settled.fst_eq {disk : Disk} {origin : SymbolIndex} {query : Query α}
    {result : Except Failure α} (h : Settled disk origin query result)
    (hnew : origin.known = []) : (query origin).1 = result :=
  (h origin (.of_new disk hnew)).1

theorem Settled.of_new {disk : Disk} {origin : SymbolIndex} {query : Query α}
    {result : Except Failure α} (h : Settled disk origin query result)
    (hnew : origin.known = []) : Settled disk origin query (query origin).1 := by
  rw [h.fst_eq hnew]
  exact h

theorem Settled.map {disk : Disk} {origin : SymbolIndex} {query : Query α}
    {result : Except Failure α} (h : Settled disk origin query result) (f : α → β) :
    Settled disk origin (f <$> query) (result.map f) := by
  intro index hindex
  obtain ⟨hresult, hafter⟩ := h index hindex
  rw [map_apply, hresult]
  exact ⟨rfl, hafter⟩

end Query

theorem settled_declarations (disk : Disk) (origin : SymbolIndex) (file : Text) :
    Query.Settled disk origin (declarations disk file) (origin.load disk file) :=
  fun _ h => ⟨h.fst_declarations file, h.snd_declarations file⟩

/-- A question is settled by what the disk has. -/
theorem settled_nearest (disk : Disk) (origin : SymbolIndex) (file : Text) (line : Nat) :
    Query.Settled disk origin (nearest disk file line)
      ((origin.load disk file).map (candidates line)) :=
  (settled_declarations disk origin file).map (candidates line)

end SymbolIndex

end DoxTriage
