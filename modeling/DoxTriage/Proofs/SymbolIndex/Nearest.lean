import DoxTriage.Proofs.Declaration.Nearest
import DoxTriage.Proofs.SymbolIndex.History
import Mathlib.Data.List.ReduceOption

/-!
# What the documents say about a line

The answer to the question which declaration a comment belongs to is put together from what the
documents of the source file say, each for itself. A document says one of three things: its nearest
declaration; nothing, because that one has no parameter list; or nothing, because there is none
(`Says`). A document that says nothing neither goes on to a later declaration nor keeps another
document from saying something.

The declarations come from the index, which has read them at some time in its past, and they are
searched by halving. What makes this right is that everything an index knows is in order
(`InOrder`). Declarations are in order when they are read, and a question adds only what it reads.

## Main definitions

* `SymbolIndex.Describes`: the declarations of a source file in a document.
* `SymbolIndex.Says`: what a document says about a line.
* `SymbolIndex.InOrder`: all that is known is in order.

## Main results

* `SymbolIndex.says_iff`: reading a document and halving finds what the document says.
* `SymbolIndex.InOrder.run`: all that an index knows is in order, at all times.
* `SymbolIndex.nearest_over_histories`: the answers of an index, document by document.
-/

namespace DoxTriage

namespace SymbolIndex

variable {disk : Disk} {marker file : Text} {line : Nat} {document : Path}

/-! ### One document -/

/-- A document can be read and has these declarations of a source file. -/
inductive Describes (disk : Disk) (marker file : Text) (document : Path)
    (declared : List Declaration) : Prop
  | intro {text : Text} (hread : disk.readInput document = .ok text)
    (hdeclared : Declaration.ofDocument marker file text = .ok declared)

theorem Describes.pairwise {declared : List Declaration}
    (h : Describes disk marker file document declared) :
    declared.Pairwise fun a b => a.before b = true := by
  obtain ⟨-, hdeclared⟩ := h
  exact Declaration.pairwise_ofDocument hdeclared

theorem readDocument_eq_ok {found : Array Declaration} :
    readDocument disk marker file document = .ok found ↔
      ∃ declared, Describes disk marker file document declared ∧ declared.toArray = found := by
  rw [readDocument]
  constructor
  · intro h
    split at h
    · cases h
    · next text hread =>
      split at h
      · cases h
      · next declared hdeclared =>
        cases h
        exact ⟨declared, ⟨hread, hdeclared⟩, rfl⟩
  · rintro ⟨declared, ⟨hread, hdeclared⟩, rfl⟩
    rw [hread]
    dsimp only
    rw [hdeclared]

theorem load_of_describes {index : SymbolIndex} {declared : List Declaration}
    (hdocument : index.documents.documentsOf file = [document])
    (h : Describes disk index.marker file document declared) :
    index.load disk file = .ok [declared.toArray] := by
  rw [load, hdocument]
  exact mapM_eq_ok_iff.2 (.cons (readDocument_eq_ok.2 ⟨declared, h, rfl⟩) .nil)

/-- What a document says about the declaration after a line of a source file. It is the nearest one
of its own, and nothing if that one has no parameter list or if there is none. -/
inductive Says (disk : Disk) (marker file : Text) (line : Nat) (document : Path) :
    Option Declaration → Prop
  | nearest {declared : List Declaration} {declaration : Declaration}
    (hdeclared : Describes disk marker file document declared)
    (hnearest : declaration.IsNearest line declared) (hparameters : declaration.parameters ≠ []) :
    Says disk marker file line document (some declaration)
  | noParameters {declared : List Declaration} {declaration : Declaration}
    (hdeclared : Describes disk marker file document declared)
    (hnearest : declaration.IsNearest line declared) (hparameters : declaration.parameters = []) :
    Says disk marker file line document none
  | nothingAfter {declared : List Declaration}
    (hdeclared : Describes disk marker file document declared)
    (hnone : ∀ declaration ∈ declared, declaration.line ≤ line) :
    Says disk marker file line document none

/-- The candidate for the declaration after a line among the declarations of one document. -/
def candidate? (line : Nat) (declared : Array Declaration) : Option Declaration :=
  (Declaration.nearestAfter? line declared).filter (·.parameters ≠ [])

/-- Each document has its own candidate. -/
theorem candidates_eq (line : Nat) (found : List (Array Declaration)) :
    candidates line found = (found.map (candidate? line)).reduceOption := by
  rw [candidates, List.filter_filterMap, List.reduceOption, List.filterMap_map]
  rfl

/-- A document whose nearest declaration has no parameter list does not go on to the next one on the
same line, and it does not silence the other document. -/
example :
    candidates 5 [#[⟨5, "(int a)".toList⟩, ⟨6, []⟩, ⟨6, "(int b)".toList⟩],
      #[⟨5, "(int a)".toList⟩, ⟨7, "(int c)".toList⟩]] = [⟨7, "(int c)".toList⟩] := by
  decide +kernel

/-- Reading a document and halving its declarations finds what the document says. -/
theorem says_iff {said : Option Declaration} :
    Says disk marker file line document said ↔
      (readDocument disk marker file document).map (candidate? line) = .ok said := by
  rw [Except.map_eq_ok_iff]
  simp only [readDocument_eq_ok, candidate?]
  constructor
  · rintro (⟨hdeclared, hnearest, hparameters⟩ | ⟨hdeclared, hnearest, hparameters⟩ |
      ⟨hdeclared, hnone⟩)
    · refine ⟨_, ⟨_, hdeclared, rfl⟩, ?_⟩
      rw [(Declaration.nearestAfter?_eq_some_iff hdeclared.pairwise).2 hnearest]
      simp [hparameters]
    · refine ⟨_, ⟨_, hdeclared, rfl⟩, ?_⟩
      rw [(Declaration.nearestAfter?_eq_some_iff hdeclared.pairwise).2 hnearest]
      simp [hparameters]
    · refine ⟨_, ⟨_, hdeclared, rfl⟩, ?_⟩
      rw [(Declaration.nearestAfter?_eq_none_iff hdeclared.pairwise).2 hnone]
      rfl
  · rintro ⟨_, ⟨declared, hdeclared, rfl⟩, rfl⟩
    cases hd : Declaration.nearestAfter? line declared.toArray with
    | none =>
      exact .nothingAfter hdeclared
        ((Declaration.nearestAfter?_eq_none_iff hdeclared.pairwise).1 hd)
    | some declaration =>
      have hnearest := (Declaration.nearestAfter?_eq_some_iff hdeclared.pairwise).1 hd
      by_cases hparameters : declaration.parameters = []
      · rw [Option.filter_some_neg (by simp [hparameters])]
        exact .noParameters hdeclared hnearest hparameters
      · rw [Option.filter_some_pos (by simp [hparameters])]
        exact .nearest hdeclared hnearest hparameters

/-- A document says one thing about a line. -/
theorem Says.unique {said other : Option Declaration}
    (h : Says disk marker file line document said)
    (hother : Says disk marker file line document other) : said = other :=
  Except.ok.inj ((says_iff.1 h).symm.trans (says_iff.1 hother))

/-! ### All documents -/

/-- What the documents say, one after the other, is what comes of loading and halving. -/
theorem forall₂_says_iff {index : SymbolIndex} {said : List (Option Declaration)} :
    List.Forall₂ (Says disk index.marker file line) (index.documents.documentsOf file) said ↔
      ∃ found, index.load disk file = .ok found ∧ found.map (candidate? line) = said := by
  have hsaid : Says disk index.marker file line = fun document said =>
      (readDocument disk index.marker file document).map (candidate? line) = .ok said := by
    funext document said
    exact propext says_iff
  rw [hsaid, ← mapM_eq_ok_iff, mapM_map_eq, Except.map_eq_ok_iff]
  rfl

/-- The candidates for a line are what the documents say about it. -/
theorem map_candidates_eq_ok_iff {index : SymbolIndex} {found : List Declaration} :
    (index.load disk file).map (candidates line) = .ok found ↔
      ∃ said, List.Forall₂ (Says disk index.marker file line) (index.documents.documentsOf file)
        said ∧ said.reduceOption = found := by
  rw [Except.map_eq_ok_iff]
  simp only [forall₂_says_iff, candidates_eq]
  constructor
  · rintro ⟨declared, hdeclared, rfl⟩
    exact ⟨_, ⟨declared, hdeclared, rfl⟩, rfl⟩
  · rintro ⟨_, ⟨declared, hdeclared, rfl⟩, rfl⟩
    exact ⟨declared, hdeclared, rfl⟩

/-! ### What is known is in order -/

/-- The declarations of every document that an index knows are in order. -/
def InOrder (index : SymbolIndex) : Prop :=
  ∀ entry ∈ index.known, ∀ declared ∈ entry.2,
    declared.toList.Pairwise fun a b => a.before b = true

theorem pairwise_of_mem_load {index : SymbolIndex} {found : List (Array Declaration)}
    (h : index.load disk file = .ok found) :
    ∀ declared ∈ found, declared.toList.Pairwise fun a b => a.before b = true := by
  intro declared hdeclared
  obtain ⟨document, -, hread⟩ := exists_of_mem_mapM h hdeclared
  obtain ⟨sorted, hdescribes, rfl⟩ := readDocument_eq_ok.1 hread
  exact hdescribes.pairwise

namespace InOrder

variable {world : World}

/-- **The step**: an event leaves all that is known in order. -/
theorem after (h : world.index.InOrder) (event : Event) : (world.after event).index.InOrder := by
  cases event with
  | change alter => exact h
  | ask question =>
    simp only [World.after, Question.ask_apply]
    rcases declarations_cases world.disk question.file world.index with
      ⟨found, _, hd⟩ | ⟨found, _, hload, hd⟩ | ⟨failure, _, _, hd⟩
    · rw [hd]
      exact h
    · rw [hd]
      exact List.forall_mem_cons.2 ⟨pairwise_of_mem_load hload, h⟩
    · rw [hd]
      exact h

/-- **The run**: so do all events. -/
theorem run (h : world.index.InOrder) (events : List Event) :
    (world.run events).index.InOrder := by
  induction events generalizing world with
  | nil => exact h
  | cons event events ih => exact ih (h.after event)

end InOrder

/-! ### The answers -/

/-- **The answers of an index, document by document**, for every history of a new index. All that
the index knows is in order. A question about a line is answered if and only if every document of
the source file says something or nothing about the line, and the answer is what they say, in the
order of the documents. The documents are those of the disk from which the index knows the source
file or, if it does not know it yet, of the disk of the day. -/
theorem nearest_over_histories (disk : Disk) (documents : ClassDocuments) (marker : Text)
    (past : List Event) :
    let start := World.start disk documents marker
    let now := start.run past
    now.index.InOrder ∧ ∀ file line answer,
      now.answer (.nearest file line) = .ok answer ↔
        ∃ said, List.Forall₂ (Says ((firstLoad? file start past).getD now.disk) marker file line)
          (documents.documentsOf file) said ∧ .candidates said.reduceOption = answer := by
  intro start now
  have hempty : start.index.InOrder := fun entry hentry => absurd hentry List.not_mem_nil
  refine ⟨hempty.run past, fun file line answer => ?_⟩
  let source := (firstLoad? file start past).getD now.disk
  let index : SymbolIndex := { documents := documents, marker := marker }
  have hanswer : now.answer (.nearest file line) =
      ((index.load source file).map (candidates line)).map .candidates := by
    rw [answer_run rfl past]
    refine (World.answer_start source documents marker (.nearest file line)).trans ?_
    change (index.load source file).map (Question.nearest file line).answerFrom = _
    cases index.load source file <;> rfl
  rw [hanswer, Except.map_eq_ok_iff]
  simp only [map_candidates_eq_ok_iff]
  constructor
  · rintro ⟨_, ⟨said, hsaid, rfl⟩, rfl⟩
    exact ⟨said, hsaid, rfl⟩
  · rintro ⟨said, hsaid, rfl⟩
    exact ⟨_, ⟨said, hsaid, rfl⟩, rfl⟩

end SymbolIndex

end DoxTriage
