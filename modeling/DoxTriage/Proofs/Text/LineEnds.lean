import DoxTriage.Proofs.Text.Rows

/-!
# Line ends

Some systems end a line with a line feed and some with a return and a line feed. A log is carried
from the one to the other with a return put before each line feed. The lines of the text stay what
they were, because a line gives up the return at its end; and the text behind the last line feed has
got none. What had returns of its own is not considered: one that stood at the end of a line was
lost before and is kept now.

## Main definitions

* `Text.withReturns`: the text with a return before each line feed.

## Main results

* `Text.lines_withReturns`: it has the same lines.
-/

namespace DoxTriage

namespace Text

variable {s row : Text}

/-- The text with a return before each line feed. -/
def withReturns (s : Text) : Text :=
  s.flatMap fun c => if c = '\n' then ['\r', '\n'] else [c]

theorem withReturns_of_not_mem (h : '\n' ∉ s) : withReturns s = s := by
  induction s with
  | nil => rfl
  | cons c s ih =>
    obtain ⟨hc, hs⟩ := List.ne_and_not_mem_of_not_mem_cons h
    rw [withReturns, List.flatMap_cons, if_neg (Ne.symm hc), ← withReturns, ih hs]
    rfl

theorem withReturns_append_newline (h : '\n' ∉ row) (s : Text) :
    withReturns (row ++ '\n' :: s) = (row ++ ['\r']) ++ '\n' :: withReturns s := by
  rw [withReturns, List.flatMap_append, ← withReturns, withReturns_of_not_mem h, List.flatMap_cons,
    if_pos rfl, ← withReturns, List.append_assoc]
  rfl

theorem dropReturn_of_not_mem (h : '\r' ∉ row) : dropReturn row = row :=
  if_neg fun hlast => h (List.mem_of_getLast? hlast)

theorem dropReturn_concat (row : Text) : dropReturn (row ++ ['\r']) = row := by
  rw [dropReturn, if_pos List.getLast?_concat, List.dropLast_concat]

/-- **A text has the same lines with returns before its line feeds**, if it has none itself. The
induction takes the first line off. -/
theorem lines_withReturns {s : Text} (h : '\r' ∉ s) : lines (withReturns s) = lines s := by
  by_cases hfeed : '\n' ∈ s
  · obtain ⟨row, rest, hs, hrow⟩ := List.eq_append_cons_of_mem hfeed
    have hlength : rest.length < s.length := by
      rw [hs, List.length_append, List.length_cons]
      omega
    rw [hs, List.mem_append, List.mem_cons, not_or, not_or] at h
    have hended : '\n' ∉ row ++ ['\r'] := not_mem_append hrow (by decide)
    rw [hs, withReturns_append_newline hrow, lines_row_append_newline hended,
      lines_row_append_newline hrow, dropReturn_concat, dropReturn_of_not_mem h.1,
      lines_withReturns h.2.2]
  · rw [withReturns_of_not_mem hfeed]
termination_by s.length

end Text

end DoxTriage
