/-!
# Text

A text is the list of its characters. Everything the library reads or writes is cut, trimmed and
put together as such a list; a `String` appears only where a program meets its terminal or its
files. Lists are what the laws are about: cutting a text and putting the parts side by side again
is `++`, and every search below is a recursion over the list it searches.

Two cuts carry most of the log formats. A format of the shape *field, then something recognised*
leaves open where the field ends when the field itself may contain the recognised thing, so it has
to say which end counts. `firstCut?` takes the shortest field and `lastCut?` the longest one.

## Main definitions

* `Text`: a list of characters.
* `Text.split`, `Text.lines`: the parts between separators, and the lines of a log.
* `Text.firstCut?`, `Text.lastCut?`: cut where a reader accepts the rest.
* `Text.utf8Length`: the number of bytes a text takes when it is written out.

## Main results

* `Text.not_mem_of_mem_split`: no part has the separator in it.
* `Text.firstCut?_eq_some`, `Text.lastCut?_eq_some`: what a cut found, put together, is the text.
-/

namespace DoxTriage

/-- A text is the list of its characters. -/
abbrev Text := List Char

namespace Text

/-! ### Pieces and lines -/

/-- Put a character in front of the first of several pieces. -/
def consPiece (c : Char) : List Text → List Text
  | [] => [[c]]
  | p :: ps => (c :: p) :: ps

/-- The parts between the occurrences of a separating character; there is always at least one. -/
def split (separator : Char) (s : Text) : List Text :=
  s.foldr (fun c ps => if c = separator then [] :: ps else consPiece c ps) [[]]

@[simp] theorem split_nil (separator : Char) : split separator [] = [[]] := rfl

@[simp] theorem split_separator (separator : Char) (s : Text) :
    split separator (separator :: s) = [] :: split separator s := by
  simp [split]

theorem split_cons {separator c : Char} (h : c ≠ separator) (s : Text) :
    split separator (c :: s) = consPiece c (split separator s) := by
  simp [split, h]

theorem consPiece_ne_nil (c : Char) (ps : List Text) : consPiece c ps ≠ [] := by
  cases ps <;> simp [consPiece]

theorem split_ne_nil (separator : Char) (s : Text) : split separator s ≠ [] := by
  cases s with
  | nil => simp
  | cons c s =>
    by_cases h : c = separator
    · simp [h]
    · rw [split_cons h]; exact consPiece_ne_nil _ _

theorem not_mem_of_mem_split {separator : Char} {s part : Text} (h : part ∈ split separator s) :
    separator ∉ part := by
  induction s generalizing part with
  | nil => simp_all
  | cons c s ih =>
    by_cases hc : c = separator
    · subst hc
      rw [split_separator] at h
      rcases List.mem_cons.1 h with rfl | h
      · simp
      · exact ih h
    · rw [split_cons hc] at h
      obtain ⟨first, others, hs⟩ := List.exists_cons_of_ne_nil (split_ne_nil separator s)
      rw [hs] at h ih
      rcases List.mem_cons.1 h with rfl | h
      · have := ih (List.mem_cons_self ..)
        simp [Ne.symm hc, this]
      · exact ih (List.mem_cons_of_mem _ h)

theorem split_append_separator (separator : Char) (s t : Text) :
    split separator (s ++ separator :: t) = split separator s ++ split separator t := by
  induction s with
  | nil => simp
  | cons c s ih =>
    by_cases hc : c = separator
    · subst hc
      rw [List.cons_append, split_separator, split_separator, ih, List.cons_append]
    · obtain ⟨first, others, hs⟩ := List.exists_cons_of_ne_nil (split_ne_nil separator s)
      rw [List.cons_append, split_cons hc, split_cons hc, ih, hs]
      rfl

theorem split_of_not_mem {separator : Char} {s : Text} (h : separator ∉ s) :
    split separator s = [s] := by
  induction s with
  | nil => rfl
  | cons c s ih =>
    rw [List.mem_cons, not_or] at h
    rw [split_cons (Ne.symm h.1), ih h.2]
    rfl

/-- The parts between line feeds. -/
abbrev pieces (s : Text) : List Text :=
  split '\n' s

/-- Drop one carriage return at the end. -/
def dropReturn (s : Text) : Text :=
  if s.getLast? = some '\r' then s.dropLast else s

/-- The lines of a text. A line feed ends a line and takes one carriage return before it along;
what follows the last line feed is a line only if there is something, and keeps its returns. -/
def lines (s : Text) : List Text :=
  (pieces s).dropLast.map dropReturn ++ (pieces s).getLast?.toList.filter (· ≠ [])

@[simp] theorem lines_nil : lines [] = [] := rfl

/-- Texts side by side, with a separator between two neighbours. -/
def join (separator : Text) (parts : List Text) : Text :=
  separator.intercalate parts

/-! ### Cuts -/

/-- Cut a text where `read` accepts the rest, at the first such place. -/
def firstCut? {α : Type} (read : Text → Option α) : Text → Option (Text × α)
  | [] => (read []).map ([], ·)
  | c :: s =>
    match read (c :: s) with
    | some a => some ([], a)
    | none => (firstCut? read s).map fun cut => (c :: cut.1, cut.2)

/-- Cut a text where `read` accepts the rest, at the last such place. -/
def lastCut? {α : Type} (read : Text → Option α) : Text → Option (Text × α)
  | [] => (read []).map ([], ·)
  | c :: s =>
    match lastCut? read s with
    | some cut => some (c :: cut.1, cut.2)
    | none => (read (c :: s)).map ([], ·)

theorem firstCut?_eq_some {α : Type} {read : Text → Option α} {s front : Text} {a : α}
    (h : firstCut? read s = some (front, a)) : ∃ rest, s = front ++ rest ∧ read rest = some a := by
  induction s generalizing front with
  | nil =>
    obtain ⟨x, hx, e⟩ := Option.map_eq_some_iff.1 h
    cases e
    exact ⟨[], rfl, hx⟩
  | cons c s ih =>
    rw [firstCut?] at h
    split at h
    · next x hx =>
      cases h
      exact ⟨c :: s, rfl, hx⟩
    · next hx =>
      obtain ⟨⟨f, b⟩, hf, e⟩ := Option.map_eq_some_iff.1 h
      cases e
      obtain ⟨rest, rfl, hr⟩ := ih hf
      exact ⟨rest, rfl, hr⟩

theorem lastCut?_eq_some {α : Type} {read : Text → Option α} {s front : Text} {a : α}
    (h : lastCut? read s = some (front, a)) : ∃ rest, s = front ++ rest ∧ read rest = some a := by
  induction s generalizing front with
  | nil =>
    obtain ⟨x, hx, e⟩ := Option.map_eq_some_iff.1 h
    cases e
    exact ⟨[], rfl, hx⟩
  | cons c s ih =>
    rw [lastCut?] at h
    split at h
    · next cut hc =>
      obtain ⟨f, b⟩ := cut
      cases h
      obtain ⟨rest, rfl, hr⟩ := ih hc
      exact ⟨rest, rfl, hr⟩
    · next hc =>
      obtain ⟨x, hx, e⟩ := Option.map_eq_some_iff.1 h
      cases e
      exact ⟨c :: s, rfl, hx⟩

/-! ### Sizes -/

/-- The number of bytes the text takes in UTF-8. -/
def utf8Length (s : Text) : Nat :=
  s.foldr (fun c length => c.utf8Size + length) 0

/-- A byte order mark at the front of a text says nothing and is dropped. -/
def dropByteOrderMark : Text → Text
  | '\uFEFF' :: s => s
  | s => s

end Text

end DoxTriage
