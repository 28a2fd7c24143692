import DoxTriage.Ascending
import DoxTriage.ClassDocuments
import Mathlib.Data.List.Infix

/-!
# What a log of documents says

The log is read from its end, and each line that names a source file takes the documents below it
that are not taken yet. Read the other way round, a document belongs to the source file that is
named by the closest such line above it. Both are statements about places in the list of lines:
`RowAt` is a document with no name above it, `ListsAt` one with a name, and what a line in front
does to the second is said by the first (`listsAt_succ`).

A source file may be named several times, and a document may be listed several times and in several
spellings. What belongs to the source file are the documents at places where no earlier document of
the same source file is the same path.

## Main definitions

* `ClassDocuments.Names`, `ClassDocuments.IsRow`: lines that name a source file, and documents.
* `ClassDocuments.ListsAt`: a document of a source file stands at a place of the log.
* `ClassDocuments.CountsAt`: a document that is none of the earlier ones.

## Main results

* `ClassDocuments.exists_listed`: what the blocks of a source file list.
* `ClassDocuments.eraseDupsBy_map`: leaving out repetitions keeps what comes first.
* `ClassDocuments.documentsOf_ofLog`: the documents of source files, and the number of files.
-/

namespace DoxTriage

namespace ClassDocuments

variable {marker file line row : Text} {directory : Path} {lines : List Text} {place : Nat}

/-! ### Places -/

/-- The line is the first one of a block of a source file. -/
def Names (marker line file : Text) : Prop :=
  ∃ path, line = mark ++ path ∧ sourceName marker (Text.trim path) = file

/-- The line is a document. -/
structure IsRow (line : Text) : Prop where
  unmarked : ¬ mark <+: line
  not_blank : Text.isBlankLine line = false

/-- The document that a line is. -/
def rowDocument (directory : Path) (row : Text) : Path :=
  directory.join ⟨Text.trim row⟩

/-- A document stands at a place of the lines, and no line above it begins a block. -/
inductive RowAt (lines : List Text) (place : Nat) (row : Text) : Prop
  | intro {above below : List Text} (hlines : lines = above ++ row :: below)
    (hplace : place = above.length) (habove : ∀ line ∈ above, ¬ mark <+: line) (hrow : IsRow row)

/-- A document stands at a place of the lines, and the closest line above it that begins a block
names the source file. -/
inductive ListsAt (marker file : Text) (lines : List Text) (place : Nat) (row : Text) : Prop
  | intro {above below : List Text} {heading : Text} {n : Nat}
    (hlines : lines = above ++ heading :: below) (hheading : Names marker heading file)
    (hrow : RowAt below n row) (hplace : place = above.length + 1 + n)

theorem Names.prefix (h : Names marker line file) : mark <+: line := by
  obtain ⟨path, rfl, -⟩ := h
  exact List.prefix_append ..

theorem names_append {path : Text} :
    Names marker (mark ++ path) file ↔ sourceName marker (Text.trim path) = file := by
  constructor
  · rintro ⟨other, hother, hname⟩
    rw [List.append_cancel_left hother, hname]
  · exact fun hname => ⟨path, rfl, hname⟩

theorem rowAt_zero : RowAt (line :: lines) 0 row ↔ line = row ∧ IsRow row := by
  constructor
  · rintro ⟨hlines, hplace, -, hrow⟩
    rw [List.eq_nil_of_length_eq_zero hplace.symm] at hlines
    exact ⟨(List.cons.inj hlines).1, hrow⟩
  · rintro ⟨rfl, hrow⟩
    exact ⟨(List.nil_append _).symm, rfl, by simp, hrow⟩

theorem rowAt_succ :
    RowAt (line :: lines) (place + 1) row ↔ ¬ mark <+: line ∧ RowAt lines place row := by
  constructor
  · rintro @⟨above, below, hlines, hplace, habove, hrow⟩
    cases above with
    | nil => cases hplace
    | cons first above =>
      obtain ⟨rfl, hlater⟩ := List.cons.inj hlines
      obtain ⟨hfirst, habove⟩ := List.forall_mem_cons.1 habove
      exact ⟨hfirst, hlater, Nat.succ.inj hplace, habove, hrow⟩
  · rintro ⟨hline, @⟨above, below, hlines, hplace, habove, hrow⟩⟩
    rw [hlines, hplace]
    exact ⟨(List.cons_append (a := line)).symm, rfl, List.forall_mem_cons.2 ⟨hline, habove⟩, hrow⟩

theorem not_listsAt_zero : ¬ ListsAt marker file lines 0 row := by
  rintro ⟨-, -, -, hplace⟩
  omega

/-- A line in front names the source file of the documents that no line names below it. -/
theorem listsAt_succ :
    ListsAt marker file (line :: lines) (place + 1) row ↔
      Names marker line file ∧ RowAt lines place row ∨ ListsAt marker file lines place row := by
  constructor
  · rintro @⟨above, below, heading, n, hlines, hheading, hrow, hplace⟩
    cases above with
    | nil =>
      obtain ⟨rfl, rfl⟩ := List.cons.inj hlines
      have hn : place = n := by rw [List.length_nil] at hplace; omega
      exact .inl ⟨hheading, hn ▸ hrow⟩
    | cons first above =>
      obtain ⟨-, hlines⟩ := List.cons.inj hlines
      refine .inr ⟨hlines, hheading, hrow, ?_⟩
      rw [List.length_cons] at hplace
      omega
  · rintro (⟨hline, hrow⟩ | @⟨above, below, heading, n, hlines, hheading, hrow, hplace⟩)
    · exact ⟨(List.nil_append (line :: lines)).symm, hline, hrow, by rw [List.length_nil]; omega⟩
    · rw [hlines, ← List.cons_append]
      exact ⟨rfl, hheading, hrow, by rw [List.length_cons]; omega⟩

/-- Documents with no name above them stand before all those with one. -/
theorem lt_of_rowAt {later : Nat} {other : Text} (hrow : RowAt lines place row)
    (hother : ListsAt marker file lines later other) : place < later := by
  obtain @⟨above, below, hlines, rfl, habove, hrow⟩ := hrow
  obtain @⟨before, after, heading, n, hother, hheading, -, rfl⟩ := hother
  rcases List.append_eq_append_iff.1 (hlines.symm.trans hother) with
    ⟨gap, rfl, -⟩ | ⟨gap, rfl, hgap⟩
  · rw [List.length_append]
    omega
  · cases gap with
    | nil =>
      obtain ⟨rfl, -⟩ := List.cons.inj hgap
      exact absurd hheading.prefix hrow.unmarked
    | cons first gap =>
      obtain ⟨rfl, -⟩ := List.cons.inj hgap
      exact absurd hheading.prefix
        (habove heading (List.mem_append_right _ (List.mem_cons_self ..)))

/-! ### Documents with their places -/

/-- The documents at certain places, in the order of the places. -/
structure Places (directory : Path) (stands : Nat → Text → Prop) (placed : List (Nat × Path)) :
    Prop where
  ascending : Ascending Prod.fst placed
  mem_iff : ∀ {place document}, (place, document) ∈ placed ↔
    ∃ row, stands place row ∧ rowDocument directory row = document

/-- The same documents, one line further down. -/
def down (placed : List (Nat × Path)) : List (Nat × Path) :=
  placed.map fun entry => (entry.1 + 1, entry.2)

theorem map_snd_down (placed : List (Nat × Path)) :
    (down placed).map Prod.snd = placed.map Prod.snd := by
  rw [down, List.map_map]
  rfl

namespace Places

variable {stands others : Nat → Text → Prop} {placed later : List (Nat × Path)}

theorem nil (h : ∀ place row, ¬ stands place row) : Places directory stands [] :=
  ⟨.nil, iff_of_false List.not_mem_nil fun ⟨row, hrow, _⟩ => h _ row hrow⟩

theorem down (h : Places directory stands placed) (hzero : ∀ row, ¬ others 0 row)
    (hsucc : ∀ place row, others (place + 1) row ↔ stands place row) :
    Places directory others (down placed) := by
  refine ⟨List.pairwise_map.2 (h.ascending.imp fun hlt => Nat.succ_lt_succ hlt), ?_⟩
  intro place document
  cases place with
  | zero => simp [ClassDocuments.down, hzero]
  | succ place => simp [ClassDocuments.down, hsucc, h.mem_iff]

theorem cons (h : Places directory stands placed) (hzero : ∀ other, others 0 other ↔ row = other)
    (hsucc : ∀ place row, others (place + 1) row ↔ stands place row) :
    Places directory others ((0, rowDocument directory row) :: ClassDocuments.down placed) := by
  refine ⟨List.pairwise_cons.2 ⟨?_, ?_⟩, ?_⟩
  · intro entry hentry
    obtain ⟨before, -, rfl⟩ := List.mem_map.1 hentry
    exact Nat.succ_pos _
  · exact List.pairwise_map.2 (h.ascending.imp fun hlt => Nat.succ_lt_succ hlt)
  · intro place document
    cases place with
    | zero => simp [ClassDocuments.down, hzero, eq_comm]
    | succ place => simp [ClassDocuments.down, hsucc, h.mem_iff]

/-- Documents of two kinds, all of one kind in front of all of the other. -/
theorem append (h : Places directory stands placed) (hlater : Places directory others later)
    (hlt : ∀ place row next other, stands place row → others next other → place < next) :
    Places directory (fun place row => stands place row ∨ others place row) (placed ++ later) := by
  refine ⟨List.pairwise_append.2 ⟨h.ascending, hlater.ascending, ?_⟩, ?_⟩
  · rintro ⟨place, document⟩ hentry ⟨next, other⟩ hother
    obtain ⟨row, hrow, -⟩ := h.mem_iff.1 hentry
    obtain ⟨row', hrow', -⟩ := hlater.mem_iff.1 hother
    exact hlt _ _ _ _ hrow hrow'
  · intro place document
    rw [List.mem_append, h.mem_iff, hlater.mem_iff, ← exists_or]
    simp only [or_and_right]

end Places

/-! ### Blocks -/

/-- The documents above the first block of some lines, and the blocks. -/
def ofLines (marker : Text) (directory : Path) (lines : List Text) :
    List Path × List DocumentBlock :=
  lines.foldr (consLine marker directory) ([], [])

/-- All that the blocks of a source file list, repetitions included. -/
def listed (blocks : List DocumentBlock) (file : Text) : List Path :=
  (blocks.filter (·.file = file)).flatMap DocumentBlock.documents

theorem ofLines_cons (line : Text) (lines : List Text) :
    ofLines marker directory (line :: lines) =
      consLine marker directory line (ofLines marker directory lines) := rfl

theorem consLine_of_mark (path : Text) (log : List Path × List DocumentBlock) :
    consLine marker directory (mark ++ path) log =
      ([], ⟨sourceName marker (Text.trim path), log.1⟩ :: log.2) := by
  rw [consLine, List.isPrefixOf?_eq_some_iff_append_eq.2 rfl]

theorem consLine_of_not_mark (h : ¬ mark <+: line) (log : List Path × List DocumentBlock) :
    consLine marker directory line log =
      (if Text.isBlankLine line then log.1 else rowDocument directory line :: log.1, log.2) := by
  have hnone : mark.isPrefixOf? line = none := by
    rw [Option.eq_none_iff_forall_ne_some]
    exact fun rest hrest => h ⟨rest, List.isPrefixOf?_eq_some_iff_append_eq.1 hrest⟩
  rw [consLine, hnone]
  dsimp only
  split <;> rfl

theorem listed_cons (block : DocumentBlock) (blocks : List DocumentBlock) :
    listed (block :: blocks) file =
      (if block.file = file then block.documents else []) ++ listed blocks file := by
  rw [listed, List.filter_cons]
  by_cases hfile : block.file = file
  · simp [hfile, listed]
  · simp [hfile, listed]

/-- The documents above the first block. -/
theorem exists_loose (marker : Text) (directory : Path) (lines : List Text) :
    ∃ placed, Places directory (RowAt lines) placed ∧
      (ofLines marker directory lines).1 = placed.map Prod.snd := by
  induction lines with
  | nil => exact ⟨[], .nil fun place row ⟨hlines, _, _, _⟩ => by simp at hlines, rfl⟩
  | cons line lines ih =>
    obtain ⟨placed, hplaced, hdocuments⟩ := ih
    rw [ofLines_cons]
    by_cases hmark : mark <+: line
    · obtain ⟨path, rfl⟩ := hmark
      refine ⟨[], .nil fun place row => ?_, by rw [consLine_of_mark]; rfl⟩
      cases place with
      | zero =>
        rw [rowAt_zero]
        rintro ⟨rfl, hrow⟩
        exact hrow.unmarked (List.prefix_append ..)
      | succ place =>
        rw [rowAt_succ]
        exact fun h => h.1 (List.prefix_append ..)
    · have hsucc : ∀ place row, RowAt (line :: lines) (place + 1) row ↔ RowAt lines place row := by
        intro place row
        rw [rowAt_succ, and_iff_right hmark]
      rw [consLine_of_not_mark hmark]
      by_cases hblank : Text.isBlankLine line = true
      · refine ⟨down placed, hplaced.down (fun row => ?_) hsucc, ?_⟩
        · rw [rowAt_zero]
          rintro ⟨rfl, hrow⟩
          exact Bool.eq_false_iff.1 hrow.not_blank hblank
        · rw [if_pos hblank, map_snd_down, hdocuments]
      · refine ⟨(0, rowDocument directory line) :: down placed,
          hplaced.cons (fun other => ?_) hsucc, ?_⟩
        · rw [rowAt_zero]
          exact and_iff_left_of_imp fun heq => heq ▸ ⟨hmark, Bool.eq_false_iff.2 hblank⟩
        · rw [if_neg hblank, List.map_cons, map_snd_down, hdocuments]

/-- What the blocks of a source file list stands in the log below the lines that name it. -/
theorem exists_listed (marker : Text) (directory : Path) (lines : List Text) (file : Text) :
    ∃ placed, Places directory (ListsAt marker file lines) placed ∧
      listed (ofLines marker directory lines).2 file = placed.map Prod.snd := by
  induction lines with
  | nil => exact ⟨[], .nil fun place row ⟨hlines, _, _, _⟩ => by simp at hlines, rfl⟩
  | cons line lines ih =>
    obtain ⟨placed, hplaced, hdocuments⟩ := ih
    rw [ofLines_cons]
    have hzero : ∀ row, ¬ ListsAt marker file (line :: lines) 0 row := fun _ => not_listsAt_zero
    by_cases hnames : Names marker line file
    · obtain ⟨path, rfl, rfl⟩ := hnames
      obtain ⟨loose, hloose, hfirst⟩ := exists_loose marker directory lines
      have hboth := hloose.append hplaced fun _ _ _ _ => lt_of_rowAt
      refine ⟨down (loose ++ placed), hboth.down hzero fun place row => ?_, ?_⟩
      · rw [listsAt_succ, names_append]
        simp
      · rw [consLine_of_mark, listed_cons, if_pos rfl, map_snd_down, List.map_append, hfirst,
          hdocuments]
    · refine ⟨down placed, hplaced.down hzero fun place row => ?_, ?_⟩
      · rw [listsAt_succ]
        exact or_iff_right fun h => hnames h.1
      · rw [map_snd_down, ← hdocuments]
        by_cases hmark : mark <+: line
        · obtain ⟨path, rfl⟩ := hmark
          rw [names_append] at hnames
          rw [consLine_of_mark, listed_cons, if_neg hnames, List.nil_append]
        · rw [consLine_of_not_mark hmark]

/-! ### What comes first -/

section First

variable {α β κ : Type} {same : α → α → Bool} {key : α → κ} {f : β → α} {order : β → Nat}

/-- Of some entries in ascending order, one that is the same as none of the earlier ones. -/
def IsFirst (same : α → α → Bool) (f : β → α) (order : β → Nat) (entries : List β) (entry : β) :
    Prop :=
  ∀ earlier ∈ entries, order earlier < order entry → same (f earlier) (f entry) = false

instance (entries : List β) (entry : β) : Decidable (IsFirst same f order entries entry) :=
  inferInstanceAs (Decidable (∀ earlier ∈ entries, _))

/-- Leaving out repetitions keeps what comes first. The induction is on the number of entries, since
each entry that is kept takes the others like it out of the rest. -/
theorem eraseDupsBy_map (hsame : ∀ a b, same a b = true ↔ key a = key b) :
    ∀ {entries : List β}, Ascending order entries →
      (entries.map f).eraseDupsBy same =
        (entries.filter (IsFirst same f order entries)).map f
  | [], _ => rfl
  | entry :: entries, h => by
    obtain ⟨habove, hentries⟩ := List.pairwise_cons.1 h
    have hdiffer : ∀ a b, same a b = false ↔ key a ≠ key b := by
      intro a b
      rw [← Bool.not_eq_true, hsame]
    have hfirst : IsFirst same f order (entry :: entries) entry := by
      intro earlier hearlier hlt
      rcases List.mem_cons.1 hearlier with rfl | hearlier
      · exact absurd hlt (Nat.lt_irrefl _)
      · exact absurd hlt (Nat.lt_asymm (habove earlier hearlier))
    let rest := entries.filter fun other => decide (same (f other) (f entry) = false)
    have hrest : rest.filter (IsFirst same f order rest) =
        entries.filter (IsFirst same f order (entry :: entries)) := by
      rw [List.filter_filter]
      refine List.filter_congr fun other hother => ?_
      rw [← Bool.decide_and, decide_eq_decide]
      simp only [IsFirst, hdiffer, List.forall_mem_cons, rest, List.mem_filter, decide_eq_true_iff]
      constructor
      · rintro ⟨hother', hne⟩
        refine ⟨fun _ => Ne.symm hne, fun earlier hearlier hlt heq => ?_⟩
        exact hother' earlier ⟨hearlier, fun hsame' => hne (heq.symm.trans hsame')⟩ hlt heq
      · rintro ⟨hne, hother'⟩
        exact ⟨fun earlier hearlier => hother' earlier hearlier.1, (hne (habove other hother)).symm⟩
    have hkeep : (entry :: entries).filter (IsFirst same f order (entry :: entries)) =
        entry :: entries.filter (IsFirst same f order (entry :: entries)) :=
      List.filter_cons_of_pos (decide_eq_true hfirst)
    rw [List.map_cons, List.eraseDupsBy_cons, List.filter_map, hkeep, List.map_cons, ← hrest]
    exact congrArg (f entry :: ·) (eraseDupsBy_map hsame (hentries.filter _))
termination_by entries => entries.length
decreasing_by exact Nat.lt_succ_of_le (List.length_filter_le ..)

/-- No two of what is left are the same. -/
theorem pairwise_eraseDupsBy (same : α → α → Bool) :
    ∀ items : List α, (items.eraseDupsBy same).Pairwise fun a b => same b a = false
  | [] => .nil
  | item :: items => by
    rw [List.eraseDupsBy_cons, List.pairwise_cons]
    refine ⟨fun other hother => ?_, pairwise_eraseDupsBy same _⟩
    exact of_decide_eq_true (List.mem_filter.1 (mem_of_mem_eraseDupsBy hother)).2
termination_by items => items.length
decreasing_by exact Nat.lt_succ_of_le (List.length_filter_le ..)

end First

/-! ### The documents of a source file -/

/-- A document of a source file stands at a place of the log, and it is the same path as no document
of the source file at an earlier place. -/
structure CountsAt (marker : Text) (directory : Path) (lines : List Text) (file : Text)
    (place : Nat) (document : Path) : Prop where
  listsAt : ∃ row, ListsAt marker file lines place row ∧ rowDocument directory row = document
  isFirst : ∀ earlier row, ListsAt marker file lines earlier row → earlier < place →
    (rowDocument directory row).same document = false

theorem mem_files_iff_names (marker : Text) (directory : Path) (lines : List Text) (file : Text) :
    file ∈ (ofLines marker directory lines).2.map DocumentBlock.file ↔
      ∃ line ∈ lines, Names marker line file := by
  induction lines with
  | nil => simp [ofLines]
  | cons line lines ih =>
    rw [ofLines_cons, List.exists_mem_cons_iff, ← ih]
    by_cases hmark : mark <+: line
    · obtain ⟨path, rfl⟩ := hmark
      rw [consLine_of_mark, names_append, List.map_cons, List.mem_cons, eq_comm]
    · have hnone : ¬ Names marker line file := fun h => hmark h.prefix
      rw [consLine_of_not_mark hmark]
      exact (or_iff_right hnone).symm

/-- **What a log of documents says**, for every log, build directory and source file. The documents
of a source file are those that stand below a line which names it, with no line that names a source
file between, in the order of their places; a document is left out if an earlier one of the same
source file is the same path. So no two of them are the same path. As many source files are counted
as are named, with documents or without. -/
theorem documentsOf_ofLog (marker : Text) (directory : Path) (content : Text) :
    (∀ file, ∃ placed : List (Nat × Path), Ascending Prod.fst placed ∧
        (∀ place document, (place, document) ∈ placed ↔
          CountsAt marker directory (Text.lines content) file place document) ∧
        (ofLog marker directory content).documentsOf file = placed.map Prod.snd) ∧
      (∀ file, ((ofLog marker directory content).documentsOf file).Pairwise
        fun document later => later.same document = false) ∧
      ∃ files : List Text, files.Nodup ∧
        (∀ file, file ∈ files ↔ ∃ line ∈ Text.lines content, Names marker line file) ∧
        (ofLog marker directory content).size = files.length := by
  refine ⟨fun file => ?_, fun file => pairwise_eraseDupsBy _ _, ?_⟩
  · obtain ⟨placed, hplaced, hlisted⟩ :=
      exists_listed marker directory (Text.lines content) file
    refine ⟨placed.filter (IsFirst Path.same Prod.snd Prod.fst placed), hplaced.ascending.filter _,
      fun place document => ?_, ?_⟩
    · rw [List.mem_filter, decide_eq_true_iff, hplaced.mem_iff]
      constructor
      · rintro ⟨hlists, hfirst⟩
        exact ⟨hlists, fun earlier row hrow hlt =>
          hfirst (earlier, _) (hplaced.mem_iff.2 ⟨row, hrow, rfl⟩) hlt⟩
      · rintro ⟨hlists, hfirst⟩
        refine ⟨hlists, fun earlier hearlier hlt => ?_⟩
        obtain ⟨row, hrow, hdocument⟩ := hplaced.mem_iff.1 hearlier
        rw [← hdocument]
        exact hfirst earlier.1 row hrow hlt
    · have hsame : ∀ p q : Path, p.same q = true ↔ p.components = q.components :=
        fun _ _ => Path.same_iff
      change (listed (ofLines marker directory (Text.lines content)).2 file).eraseDupsBy _ = _
      rw [hlisted, eraseDupsBy_map hsame hplaced.ascending]
  · refine ⟨_, ?_, fun file => ?_, rfl⟩
    · exact (pairwise_eraseDupsBy _ _).imp fun hne => Ne.symm (ne_of_beq_false hne)
    · rw [List.mem_eraseDups]
      exact mem_files_iff_names marker directory (Text.lines content) file

end ClassDocuments

end DoxTriage
