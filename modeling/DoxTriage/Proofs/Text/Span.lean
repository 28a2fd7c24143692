import DoxTriage.Text.Basic

/-!
# Where a span of characters ends

Most readers take characters of one class and go on with the first other one. When the text is known
to be a word of the class followed by another character, what such a reader takes is the word, and
what it goes on with is the rest.

## Main results

* `Text.takeWhile_span`, `Text.dropWhile_span`: a span, and what follows it.
* `Text.takeWhile_ne_span`, `Text.dropWhile_ne_span`: the same, up to the first occurrence of a
  character.
-/

namespace DoxTriage

namespace Text

variable {p : Char → Bool} {word rest : Text} {c : Char}

theorem takeWhile_span (hword : ∀ c ∈ word, p c = true) (hc : p c = false) :
    (word ++ c :: rest).takeWhile p = word := by
  rw [List.takeWhile_append_of_pos hword, List.takeWhile_cons_of_neg (Bool.eq_false_iff.1 hc),
    List.append_nil]

theorem dropWhile_span (hword : ∀ c ∈ word, p c = true) (hc : p c = false) :
    (word ++ c :: rest).dropWhile p = c :: rest := by
  rw [List.dropWhile_append_of_pos hword, List.dropWhile_cons_of_neg (Bool.eq_false_iff.1 hc)]

theorem ne_of_not_mem (h : c ∉ word) : ∀ d ∈ word, decide (d ≠ c) = true :=
  fun _ hd => decide_eq_true fun heq => h (heq ▸ hd)

theorem takeWhile_ne_span (h : c ∉ word) : (word ++ c :: rest).takeWhile (· ≠ c) = word :=
  takeWhile_span (ne_of_not_mem h) (by simp)

theorem dropWhile_ne_span (h : c ∉ word) : (word ++ c :: rest).dropWhile (· ≠ c) = c :: rest :=
  dropWhile_span (ne_of_not_mem h) (by simp)

end Text

end DoxTriage
