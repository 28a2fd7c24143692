import DoxTriage.Text.Blank

/-!
# Warnings

A warning is one occurrence of a message in a log, with the file and the line it is about. The
file is named as the tool that wrote the log named it.

The first line of a message is its *headline*; it says what is wrong. The lines after it are the
*context*, which says where and how: the same headline may come with one context for every file
that includes the faulty one. Only the headline counts when two occurrences are compared. The space
at the end of a headline is part of it, since the tool leaves a name out that way.

## Main definitions

* `Warning`: a file, a line and a message.
* `Warning.headline`, `Warning.context`: the first line of the message, and the others.

## Main results

* `Warning.not_mem_headline`: a headline is one line.
-/

namespace DoxTriage

/-- One occurrence of a warning in a log. -/
structure Warning where
  file : Text
  line : Nat
  message : Text
  deriving DecidableEq, Repr

namespace Warning

/-- The first line of the message. -/
def headline (warning : Warning) : Text :=
  Text.dropReturn ((Text.pieces warning.message).headD [])

/-- The other lines of the message, without the blanks around them and without the blank ones. -/
def context (warning : Warning) : List Text :=
  ((Text.pieces warning.message).tail.map Text.trim).filter (· ≠ [])

theorem not_mem_headline (warning : Warning) : '\n' ∉ warning.headline := by
  obtain ⟨first, others, hs⟩ := List.exists_cons_of_ne_nil (Text.split_ne_nil '\n' warning.message)
  have hfirst : '\n' ∉ first := Text.not_mem_of_mem_split (hs ▸ List.mem_cons_self ..)
  have hmem : ∀ c ∈ Text.dropReturn first, c ∈ first := by
    intro c hc
    rw [Text.dropReturn] at hc
    split at hc
    · exact (List.dropLast_sublist _).subset hc
    · exact hc
  intro h
  simp only [headline, Text.pieces, hs, List.headD_cons] at h
  exact hfirst (hmem _ h)

end Warning

end DoxTriage
