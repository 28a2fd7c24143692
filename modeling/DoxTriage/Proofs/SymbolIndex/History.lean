import DoxTriage.Proofs.SymbolIndex.Question
import Mathlib.Data.List.Basic

/-!
# The history of an index

An index lives while files change: questions about any source files alternate with changes of the
disk, and some of the questions fail. What a question about one source file is answered with is then
decided by a single moment, the first time that a question about this source file succeeded. Before
that moment nothing is known, and the disk of the day is read; after it nothing is read.

## How the moment is found

`firstLoad?` goes through the events with the world as it was at each of them. `lookup_run` says
that it finds the right disk: what an index knows at the end is what it knew at first or, failing
that, what could be loaded at that moment. The laws below are read off from this equation.

A change is any function on disks. Putting an entry and removing one are two of them, and so are
several at once, so a history has as many changes between two questions as one likes.

## Main definitions

* `SymbolIndex.Event`, `SymbolIndex.World`: what happens, and a disk with an index.
* `SymbolIndex.World.run`, `SymbolIndex.World.answer`: the world after events, and what it answers.
* `SymbolIndex.firstLoad?`: the disk of the first question about a source file that succeeded.

## Main results

* `SymbolIndex.lookup_run`: what is known at the end of a history.
* `SymbolIndex.Agree.run_filter`: questions about other source files leave no trace.
* `SymbolIndex.answers_over_histories`: the four laws of an index that keeps what it has read.
-/

namespace DoxTriage

namespace SymbolIndex

/-- What happens to an index, or to the disk around it. -/
inductive Event where
  | ask (question : Question)
  | change (alter : Disk → Disk)

namespace Event

/-- A question about a source file. -/
def isAbout (file : Text) : Event → Bool
  | .ask question => question.file = file
  | .change _ => false

/-- All events but the questions about other source files. -/
def concerns (file : Text) : Event → Bool
  | .ask question => question.file = file
  | .change _ => true

end Event

/-- A disk, and an index that is asked about it. -/
structure World where
  disk : Disk
  index : SymbolIndex

namespace World

/-- A disk with a new index. -/
def start (disk : Disk) (documents : ClassDocuments) (marker : Text) : World :=
  ⟨disk, { documents := documents, marker := marker }⟩

/-- What a question is answered with. -/
def answer (world : World) (question : Question) : Except Failure Answer :=
  (question.ask world.disk world.index).1

/-- The world after an event. -/
def after (world : World) : Event → World
  | .ask question => { world with index := (question.ask world.disk world.index).2 }
  | .change alter => { world with disk := alter world.disk }

/-- The world after several events. -/
def run (world : World) (events : List Event) : World :=
  events.foldl after world

@[simp] theorem run_nil (world : World) : world.run [] = world := rfl

@[simp] theorem run_cons (world : World) (event : Event) (events : List Event) :
    world.run (event :: events) = (world.after event).run events := rfl

theorem answer_eq (world : World) (question : Question) :
    world.answer question =
      (declarations world.disk question.file world.index).1.map question.answerFrom := by
  rw [answer, Question.ask_apply]

/-- A question about a source file of which nothing is known is answered from the disk. -/
theorem answer_of_unknown {world : World} {question : Question}
    (h : world.index.known.lookup question.file = none) :
    world.answer question =
      (world.index.load world.disk question.file).map question.answerFrom := by
  rw [answer_eq, fst_declarations_of_unknown h]

/-- A new index answers from the disk. -/
theorem answer_start (disk : Disk) (documents : ClassDocuments) (marker : Text)
    (question : Question) :
    (start disk documents marker).answer question =
      (load disk { documents := documents, marker := marker } question.file).map
        question.answerFrom :=
  answer_of_unknown rfl

/-- A question about a source file of which something is known is answered with that. -/
theorem answer_of_known {world : World} {question : Question} {found : List (Array Declaration)}
    (h : world.index.known.lookup question.file = some found) :
    world.answer question = .ok (question.answerFrom found) := by
  rw [answer_eq, declarations_of_known h]
  rfl

theorem sources_after (world : World) (event : Event) :
    (world.after event).index.documents = world.index.documents ∧
      (world.after event).index.marker = world.index.marker := by
  cases event with
  | ask question =>
    simp only [after, Question.ask_apply]
    exact documents_declarations world.disk question.file world.index
  | change alter => exact ⟨rfl, rfl⟩

theorem load_after (world : World) (event : Event) (disk : Disk) (file : Text) :
    (world.after event).index.load disk file = world.index.load disk file :=
  load_congr (world.sources_after event).1 (world.sources_after event).2 disk file

theorem load_run (world : World) (events : List Event) (disk : Disk) (file : Text) :
    (world.run events).index.load disk file = world.index.load disk file := by
  induction events generalizing world with
  | nil => rfl
  | cons event events ih => rw [run_cons, ih, load_after]

end World

/-! ### The first question that succeeds -/

/-- An event is a question about a source file that succeeds. -/
def Event.loads (file : Text) (world : World) : Event → Bool
  | .ask question => question.file = file && (world.answer question).isOk
  | .change _ => false

/-- The disk as it was when a question about a source file succeeded for the first time. -/
def firstLoad? (file : Text) (world : World) : List Event → Option Disk
  | [] => none
  | event :: events =>
    if event.loads file world then some world.disk
    else firstLoad? file (world.after event) events

theorem Event.load_of_loads {file : Text} {world : World} {event : Event}
    (h : event.loads file world = true) (hunknown : world.index.known.lookup file = none) :
    ∃ found, world.index.load world.disk file = .ok found := by
  cases event with
  | ask question =>
    simp only [Event.loads, Bool.and_eq_true, decide_eq_true_eq] at h
    obtain ⟨rfl, hok⟩ := h
    rw [World.answer_of_unknown hunknown] at hok
    cases hload : world.index.load world.disk question.file with
    | ok found => exact ⟨found, rfl⟩
    | error failure => rw [hload] at hok; cases hok
  | change alter => cases h

/-- **The step**: what is known stays known, and something becomes known by loading it. -/
theorem lookup_after (world : World) (event : Event) (file : Text) :
    (world.after event).index.known.lookup file =
      (world.index.known.lookup file).or
        (if event.loads file world then (world.index.load world.disk file).toOption else none) := by
  cases event with
  | change alter => simp [World.after, Event.loads]
  | ask question =>
    simp only [World.after, Event.loads, World.answer, Question.ask_apply]
    rcases declarations_cases world.disk question.file world.index with
      ⟨found, hknown, h⟩ | ⟨found, hknown, hload, h⟩ | ⟨failure, hknown, hload, h⟩
    · rw [h]
      by_cases hfile : question.file = file
      · subst hfile
        rw [hknown, Option.some_or]
      · simp [hfile]
    · rw [h]
      by_cases hfile : question.file = file
      · subst hfile
        simp [hknown, hload, Except.map, Except.isOk, Except.toBool, Except.toOption]
      · have hne : (file == question.file) = false := by simpa using Ne.symm hfile
        simp [hfile, List.lookup_cons, hne]
    · rw [h]
      simp [Except.map, Except.isOk, Except.toBool]

/-- **The run**: at the end of a history an index knows of a source file what it knew at first or,
failing that, what could be loaded when a question about it succeeded for the first time. -/
theorem lookup_run (world : World) (events : List Event) (file : Text) :
    (world.run events).index.known.lookup file =
      (world.index.known.lookup file).or
        ((firstLoad? file world events).bind fun disk =>
          (world.index.load disk file).toOption) := by
  induction events generalizing world with
  | nil => simp [firstLoad?]
  | cons event events ih =>
    rw [World.run_cons, ih, lookup_after, firstLoad?]
    simp only [World.load_after]
    cases hknown : world.index.known.lookup file with
    | some found => simp
    | none =>
      split
      · next hloads =>
        obtain ⟨found, hload⟩ := Event.load_of_loads hloads hknown
        simp [hload, Except.toOption]
      · simp

theorem load_of_firstLoad? {file : Text} {world : World} {events : List Event} {disk : Disk}
    (h : firstLoad? file world events = some disk)
    (hunknown : world.index.known.lookup file = none) :
    ∃ found, world.index.load disk file = .ok found := by
  induction events generalizing world with
  | nil => cases h
  | cons event events ih =>
    rw [firstLoad?] at h
    split at h
    · next hloads => cases h; exact Event.load_of_loads hloads hunknown
    · next hloads =>
      have hafter : (world.after event).index.known.lookup file = none := by
        rw [lookup_after, hunknown, if_neg hloads, Option.none_or]
      obtain ⟨found, hload⟩ := ih h hafter
      exact ⟨found, by rw [← hload, World.load_after]⟩

/-- Every answer is the answer of a new index, on the disk of the first question about the source
file that succeeded or, if none has, on the disk of the day. -/
theorem answer_run {world : World} {question : Question} (hnew : world.index.known = [])
    (events : List Event) :
    (world.run events).answer question =
      World.answer
        { world with disk := (firstLoad? question.file world events).getD (world.run events).disk }
        question := by
  have hunknown : world.index.known.lookup question.file = none := by rw [hnew]; rfl
  have hnewAnswer : ∀ disk, World.answer { world with disk := disk } question =
      (world.index.load disk question.file).map question.answerFrom :=
    fun _ => World.answer_of_unknown hunknown
  have hknown := lookup_run world events question.file
  rw [hunknown, Option.none_or] at hknown
  rw [hnewAnswer]
  cases hfirst : firstLoad? question.file world events with
  | none =>
    rw [hfirst] at hknown
    rw [World.answer_of_unknown hknown, World.load_run]
    rfl
  | some disk =>
    obtain ⟨found, hload⟩ := load_of_firstLoad? hfirst hunknown
    have hfound : (world.run events).index.known.lookup question.file = some found := by
      rw [hknown, hfirst, Option.bind_some, hload]
      rfl
    rw [World.answer_of_known hfound, Option.getD_some, hload]
    rfl

/-! ### Other source files -/

/-- Two worlds that a question about one source file cannot tell apart. -/
structure Agree (file : Text) (left right : World) : Prop where
  disk_eq : left.disk = right.disk
  documents_eq : left.index.documents = right.index.documents
  marker_eq : left.index.marker = right.index.marker
  known_eq : left.index.known.lookup file = right.index.known.lookup file

namespace Agree

variable {file : Text} {left right : World}

theorem refl (file : Text) (world : World) : Agree file world world :=
  ⟨rfl, rfl, rfl, rfl⟩

theorem load_eq (h : Agree file left right) (disk : Disk) :
    left.index.load disk file = right.index.load disk file :=
  load_congr h.documents_eq h.marker_eq disk file

theorem answer_eq {question : Question} (h : Agree question.file left right) :
    left.answer question = right.answer question := by
  rw [World.answer, World.answer, h.disk_eq]
  exact Question.fst_ask_congr h.known_eq (h.load_eq _)

theorem loads_eq (h : Agree file left right) (event : Event) :
    event.loads file left = event.loads file right := by
  cases event with
  | change alter => rfl
  | ask question =>
    by_cases hfile : question.file = file
    · subst hfile
      rw [Event.loads, Event.loads, h.answer_eq]
    · simp [Event.loads, hfile]

/-- The same event keeps two worlds in agreement. -/
theorem after (h : Agree file left right) (event : Event) :
    Agree file (left.after event) (right.after event) := by
  obtain ⟨hleft, hleft'⟩ := left.sources_after event
  obtain ⟨hright, hright'⟩ := right.sources_after event
  refine ⟨?_, ?_, ?_, ?_⟩
  · cases event with
    | ask question => exact h.disk_eq
    | change alter => exact congrArg alter h.disk_eq
  · rw [hleft, hright, h.documents_eq]
  · rw [hleft', hright', h.marker_eq]
  · rw [lookup_after, lookup_after, h.known_eq, h.loads_eq, h.load_eq, h.disk_eq]

/-- A question about another source file keeps them in agreement, even if only one is asked. -/
theorem after_left (h : Agree file left right) {event : Event}
    (hother : event.concerns file = false) : Agree file (left.after event) right := by
  cases event with
  | change alter => cases hother
  | ask question =>
    obtain ⟨hleft, hleft'⟩ := left.sources_after (.ask question)
    refine ⟨h.disk_eq, hleft.trans h.documents_eq, hleft'.trans h.marker_eq, ?_⟩
    have hloads : (Event.ask question).loads file left = false := by
      have hfile : ¬ question.file = file := by simpa [Event.concerns] using hother
      simp [Event.loads, hfile]
    rw [lookup_after, hloads, ← h.known_eq]
    simp

/-- **Questions about other source files leave no trace.** -/
theorem run_filter (h : Agree file left right) (events : List Event) :
    Agree file (left.run events) (right.run (events.filter (·.concerns file))) := by
  induction events generalizing left right with
  | nil => exact h
  | cons event events ih =>
    cases hconcerns : event.concerns file with
    | true =>
      rw [List.filter_cons_of_pos hconcerns]
      exact ih (h.after event)
    | false =>
      rw [List.filter_cons_of_neg (by simp [hconcerns])]
      exact ih (h.after_left hconcerns)

end Agree

/-! ### An unchanged disk -/

/-- While the disk stays as it is, questions leave an index faithful. -/
theorem Faithful.run_ask {disk : Disk} {origin index : SymbolIndex}
    (h : Faithful disk origin index) (questions : List Question) :
    Faithful disk origin ((⟨disk, index⟩ : World).run (questions.map .ask)).index := by
  induction questions generalizing index with
  | nil => exact h
  | cons question questions ih =>
    have hafter : Faithful disk origin (question.ask disk index).2 := by
      rw [Question.ask_apply]
      exact h.snd_declarations question.file
    exact ih hafter

/-! ### The laws -/

/-- Once a source file is known, questions about it are answered with what is known. -/
theorem answer_run_of_known {world : World} {question : Question}
    {found : List (Array Declaration)}
    (h : world.index.known.lookup question.file = some found) (later : List Event) :
    (world.run later).answer question = .ok (question.answerFrom found) := by
  refine World.answer_of_known ?_
  rw [lookup_run, h, Option.some_or]

/-- While nobody asks about a source file that is not known, it stays unknown. -/
theorem lookup_run_of_not_about {world : World} {file : Text}
    (h : world.index.known.lookup file = none) {later : List Event}
    (hlater : ∀ event ∈ later, event.isAbout file = false) :
    (world.run later).index.known.lookup file = none := by
  induction later generalizing world with
  | nil => exact h
  | cons event events ih =>
    refine ih ?_ fun other hother => hlater other (List.mem_cons_of_mem _ hother)
    have hevent : event.loads file world = false := by
      have habout := hlater event (List.mem_cons_self ..)
      cases event with
      | ask question =>
        have hfile : ¬ question.file = file := by simpa [Event.isAbout] using habout
        simp [Event.loads, hfile]
      | change alter => rfl
    rw [lookup_after, h, hevent]
    rfl

/-- After a question has been answered, its source file is known. -/
theorem known_of_answer_eq_ok {world : World} {question : Question} {answer : Answer}
    (h : world.answer question = .ok answer) :
    ∃ found, answer = question.answerFrom found ∧
      (world.after (.ask question)).index.known.lookup question.file = some found := by
  rw [World.answer_eq] at h
  simp only [World.after, Question.ask_apply]
  rcases declarations_cases world.disk question.file world.index with
    ⟨found, hknown, hd⟩ | ⟨found, hknown, hload, hd⟩ | ⟨failure, hknown, hload, hd⟩
  · rw [hd] at h ⊢
    cases h
    exact ⟨found, rfl, hknown⟩
  · rw [hd] at h ⊢
    cases h
    exact ⟨found, rfl, by simp⟩
  · rw [hd] at h
    cases h

/-- A question that fails leaves the world as it was, and its source file unknown. -/
theorem unknown_of_answer_eq_error {world : World} {question : Question} {failure : Failure}
    (h : world.answer question = .error failure) :
    world.after (.ask question) = world ∧ world.index.known.lookup question.file = none := by
  rw [World.answer_eq] at h
  simp only [World.after, Question.ask_apply]
  rcases declarations_cases world.disk question.file world.index with
    ⟨found, hknown, hd⟩ | ⟨found, hknown, hload, hd⟩ | ⟨failure, hknown, hload, hd⟩
  · rw [hd] at h
    cases h
  · rw [hd] at h
    cases h
  · rw [hd]
    exact ⟨rfl, hknown⟩

/-- **The laws of an index that keeps what it has read**, for every history of a new index and
every question after it.

An answer is the one of a new index on the disk as it was when a question about the source file
succeeded for the first time; if none has, on the disk of the day. Once a question has succeeded,
every later one about its source file succeeds with the same declarations. One that fails leaves the
index as it was, and the next one about its source file reads the disk of its own day. Questions
about other source files make no difference. -/
theorem answers_over_histories (disk : Disk) (documents : ClassDocuments) (marker : Text)
    (past : List Event) (question : Question) :
    let start := World.start disk documents marker
    let now := start.run past
    now.answer question =
        (World.start ((firstLoad? question.file start past).getD now.disk) documents
          marker).answer question ∧
      (∀ answer, now.answer question = .ok answer →
        ∃ found, answer = question.answerFrom found ∧
          ∀ (later : List Event) (again : Question), again.file = question.file →
            ((now.after (.ask question)).run later).answer again =
              .ok (again.answerFrom found)) ∧
      (∀ failure, now.answer question = .error failure →
        (now.after (.ask question)).index = now.index ∧
          ∀ later : List Event, (∀ event ∈ later, event.isAbout question.file = false) →
            ∀ again : Question, again.file = question.file →
              ((now.after (.ask question)).run later).answer again =
                (World.start ((now.after (.ask question)).run later).disk documents
                  marker).answer again) ∧
      now.answer question =
        (start.run (past.filter (·.concerns question.file))).answer question := by
  intro start now
  refine ⟨answer_run rfl past, ?_, ?_, ?_⟩
  · intro answer hok
    obtain ⟨found, hanswer, hknown⟩ := known_of_answer_eq_ok hok
    refine ⟨found, hanswer, ?_⟩
    intro later again hagain
    rw [← hagain] at hknown
    exact answer_run_of_known hknown later
  · intro failure herror
    obtain ⟨hsame, hunknown⟩ := unknown_of_answer_eq_error herror
    rw [hsame]
    refine ⟨rfl, ?_⟩
    intro later hlater again hagain
    have hstill := lookup_run_of_not_about hunknown hlater
    rw [← hagain] at hstill
    rw [World.answer_of_unknown hstill, World.load_run, World.load_run, World.answer_start]
    rfl
  · exact ((Agree.refl question.file start).run_filter past).answer_eq

/-- A document that is missing at first, then written, then removed again: the first question fails,
the next one is answered from the document, and the last one as if it were still there. -/
theorem answers_over_histories_mended :
    let page : Path := ⟨"d.xml".toList⟩
    let text : Text := ("<memberdef><argsstring>(int a)</argsstring>" ++
      "<location file='f' line='8'/></memberdef>").toList
    let disk : Disk := ⟨fun _ => none, []⟩
    let table : ClassDocuments := ⟨[⟨"f".toList, [page]⟩]⟩
    let question : Question := .nearest "f".toList 3
    let write := Event.change (·.put page (.file text))
    let remove := Event.change (·.remove page)
    let start := World.start disk table []
    start.answer question = .error (.missingInput page) ∧
      (start.run [.ask question, write]).answer question =
        .ok (.candidates [⟨8, "(int a)".toList⟩]) ∧
      (start.run [.ask question, write, .ask question, remove]).answer question =
        .ok (.candidates [⟨8, "(int a)".toList⟩]) := by
  intro page text disk table question write remove start
  have hmissing : start.answer question = .error (.missingInput page) := by decide +kernel
  have hfresh : (World.start (disk.put page (.file text)) table []).answer question =
      .ok (.candidates [⟨8, "(int a)".toList⟩]) := by decide +kernel
  have habout : ∀ event ∈ [write], event.isAbout question.file = false := by
    intro event hevent
    rw [List.mem_singleton.1 hevent]
    rfl
  have hwritten : (start.run [.ask question, write]).answer question =
      .ok (.candidates [⟨8, "(int a)".toList⟩]) := by
    rw [← hfresh]
    exact ((answers_over_histories disk table [] [] question).2.2.1 _ hmissing).2 [write] habout
      question rfl
  obtain ⟨found, hfound, hlater⟩ :=
    (answers_over_histories disk table [] [.ask question, write] question).2.1 _ hwritten
  refine ⟨hmissing, hwritten, ?_⟩
  rw [hfound]
  exact hlater [remove] question rfl

end SymbolIndex

end DoxTriage
