import DoxTriage.Text.Blank
import DoxTriage.Text.Digit
import Mathlib.Data.List.Basic

/-!
# Texts made of rows

A text that is written row by row, with a line feed after each row, has the rows for its lines if no
row has a line feed of its own. So it is enough to look at what rows are made of: numbers, trimmed
texts, and texts that are put side by side with a separator.

A text that somebody else has written can have rows with returns at their ends, and a last row
without a line end. A row that stands somewhere in such a text is one of its lines all the same
(`Text.mem_lines_of_isRow`).

## Main definitions

* `Text.IsRow`: a row stands in a text.

## Main results

* `Text.pieces_rows`, `Text.lines_rows`, `Text.count_newline_rows`: the lines of such a text are its
  rows.
* `Text.join_cons`, `Text.join_concat`: texts side by side, from the left and from the right.
* `Text.pieces_join`: lines side by side are cut into the lines.
* `Text.not_mem_trim`, `Text.not_mem_join`, `Text.not_mem_decimal`: no character comes in.
-/

namespace DoxTriage

namespace Text

/-! ### Rows -/

section Rows

variable {rows : List Text} {last : Text}

/-- Rows with a line feed after each of them are cut into the rows and what stands after them. -/
theorem pieces_rows_append (h : ∀ row ∈ rows, '\n' ∉ row) (hlast : '\n' ∉ last) :
    pieces (rows.flatMap (· ++ ['\n']) ++ last) = rows ++ [last] := by
  induction rows with
  | nil => exact split_of_not_mem hlast
  | cons row rows ih =>
    obtain ⟨hrow, hrows⟩ := List.forall_mem_cons.1 h
    rw [List.flatMap_cons, List.append_assoc, List.append_assoc, List.singleton_append, pieces,
      split_append_separator, split_of_not_mem hrow, ← pieces, ih hrows]
    rfl

theorem pieces_rows (h : ∀ row ∈ rows, '\n' ∉ row) :
    pieces (rows.flatMap (· ++ ['\n'])) = rows ++ [[]] := by
  rw [← pieces_rows_append h List.not_mem_nil, List.append_nil]

/-- What stands after the rows is a line if there is something. -/
theorem lines_rows_append (h : ∀ row ∈ rows, '\n' ∉ row) (hlast : '\n' ∉ last) :
    lines (rows.flatMap (· ++ ['\n']) ++ last) =
      rows.map dropReturn ++ [last].filter (· ≠ []) := by
  rw [lines, pieces_rows_append h hlast, List.dropLast_concat, List.getLast?_concat]
  rfl

theorem lines_rows (h : ∀ row ∈ rows, '\n' ∉ row) :
    lines (rows.flatMap (· ++ ['\n'])) = rows.map dropReturn := by
  rw [← List.append_nil (rows.flatMap _), lines_rows_append h List.not_mem_nil]
  exact List.append_nil _

theorem count_newline_rows (h : ∀ row ∈ rows, '\n' ∉ row) :
    (rows.flatMap (· ++ ['\n'])).count '\n' = rows.length := by
  induction rows with
  | nil => rfl
  | cons row rows ih =>
    obtain ⟨hrow, hrows⟩ := List.forall_mem_cons.1 h
    have hone : (row ++ ['\n']).count '\n' = 1 := by
      rw [List.count_append, List.count_eq_zero_of_not_mem hrow]
      rfl
    rw [List.flatMap_cons, List.count_append, hone, ih hrows, List.length_cons, Nat.add_comm]

theorem getLast?_rows (h : rows ≠ []) : (rows.flatMap (· ++ ['\n'])).getLast? = some '\n' := by
  rw [← List.dropLast_concat_getLast h, List.flatMap_append, List.flatMap_singleton,
    ← List.append_assoc, List.getLast?_concat]

end Rows

/-! ### A row in a text -/

section IsRow

variable {content row : Text}

/-- The row stands in the text, from the begin of a line up to a line feed, a return and a line
feed, or the end. -/
def IsRow (content row : Text) : Prop :=
  '\n' ∉ row ∧ ∃ front back, content = front ++ (row ++ back) ∧
    (front = [] ∨ front.getLast? = some '\n') ∧
    (back = [] ∨ back.head? = some '\n' ∨ ['\r', '\n'] <+: back)

theorem lines_append_newline (s t : Text) :
    lines (s ++ '\n' :: t) = (pieces s).map dropReturn ++ lines t := by
  have hne : pieces t ≠ [] := split_ne_nil '\n' t
  rw [lines, lines, pieces, split_append_separator, List.dropLast_append_of_ne_nil hne,
    List.getLast?_append_of_ne_nil _ hne, List.map_append, List.append_assoc]

/-- What stands before a line feed is the first line. -/
theorem lines_row_append_newline (h : '\n' ∉ row) (t : Text) :
    lines (row ++ '\n' :: t) = dropReturn row :: lines t := by
  rw [lines_append_newline, pieces, split_of_not_mem h]
  rfl

/-- A row that stands in a text is one of its lines, if it has no return at its end to lose. -/
theorem mem_lines_of_isRow (h : IsRow content row) (hne : row ≠ [])
    (hreturn : row.getLast? ≠ some '\r') : row ∈ lines content := by
  obtain ⟨hrow, front, back, rfl, hfront, hback⟩ := h
  have hfirst : row ∈ lines (row ++ back) := by
    rcases hback with rfl | hnext | ⟨t, rfl⟩
    · have hlines := lines_rows_append (List.forall_mem_nil _) hrow
      rw [List.flatMap_nil, List.nil_append] at hlines
      rw [List.append_nil, hlines]
      simp [hne]
    · obtain ⟨t, rfl⟩ := List.head?_eq_some_iff.1 hnext
      rw [lines_row_append_newline hrow, dropReturn, if_neg hreturn]
      exact List.mem_cons_self ..
    · have hended : '\n' ∉ row ++ ['\r'] := by simp [hrow]
      have hdrop : dropReturn (row ++ ['\r']) = row := by simp [dropReturn]
      have hlines := lines_row_append_newline hended t
      rw [List.append_assoc, hdrop] at hlines
      exact hlines ▸ List.mem_cons_self ..
  rcases hfront with rfl | hlast
  · exact hfirst
  · obtain ⟨before, rfl⟩ := List.getLast?_eq_some_iff.1 hlast
    rw [List.append_assoc, List.singleton_append, lines_append_newline]
    exact List.mem_append_right _ hfirst

end IsRow

/-! ### Parts of a row -/

variable {c : Char} {separator s : Text} {parts : List Text}

/-- Texts side by side: the first one, and each other one with the separator in front of it. -/
theorem join_cons (separator first : Text) (others : List Text) :
    join separator (first :: others) = first ++ others.flatMap (separator ++ ·) := by
  induction others generalizing first with
  | nil => simp [join]
  | cons second others ih =>
    rw [join, List.intercalate_cons_cons, ← join, ih, List.flatMap_cons, List.append_assoc,
      List.append_assoc]

/-- Texts side by side: the last one, and each other one with the separator after it. -/
theorem join_concat (separator last : Text) (others : List Text) :
    join separator (others ++ [last]) = others.flatMap (· ++ separator) ++ last := by
  induction others with
  | nil => simp [join]
  | cons first others ih =>
    rw [List.cons_append, join, List.intercalate_cons_of_ne_nil (by simp), ← join, ih,
      List.flatMap_cons, List.append_assoc, List.append_assoc, List.append_assoc]

/-- Lines side by side are cut into the lines. -/
theorem pieces_join (hne : parts ≠ []) (h : ∀ part ∈ parts, '\n' ∉ part) :
    pieces (join ['\n'] parts) = parts := by
  rw [← List.dropLast_concat_getLast hne] at h ⊢
  obtain ⟨hothers, hlast⟩ := List.forall_mem_append.1 h
  rw [join_concat, pieces_rows_append hothers (hlast _ (List.mem_singleton.2 rfl))]

theorem not_mem_append {t : Text} (hs : c ∉ s) (ht : c ∉ t) : c ∉ s ++ t :=
  fun hc => (List.mem_append.1 hc).elim hs ht

theorem not_mem_join (hseparator : c ∉ separator) (hparts : ∀ part ∈ parts, c ∉ part) :
    c ∉ join separator parts := by
  cases parts with
  | nil => exact List.not_mem_nil
  | cons first others =>
    obtain ⟨hfirst, hothers⟩ := List.forall_mem_cons.1 hparts
    rw [join_cons]
    refine not_mem_append hfirst fun hc => ?_
    obtain ⟨part, hpart, hc⟩ := List.mem_flatMap.1 hc
    exact not_mem_append hseparator (hothers part hpart) hc

theorem not_mem_trim (h : c ∉ s) : c ∉ trim s := by
  intro hc
  have hstart : c ∈ trimStart s :=
    List.mem_reverse.1 ((List.dropWhile_suffix _).subset (List.mem_reverse.1 hc))
  exact h ((List.dropWhile_suffix _).subset hstart)

theorem not_mem_decimal (h : c.isDigit = false) (n : Nat) : c ∉ decimal n := by
  intro hc
  rw [isDigit_of_mem_decimal hc] at h
  cases h

end Text

end DoxTriage
