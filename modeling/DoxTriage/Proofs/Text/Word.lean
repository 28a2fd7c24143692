import DoxTriage.Text.Blank
import DoxTriage.Proofs.Text.Span
import Mathlib.Data.List.Infix
import Mathlib.Data.List.TakeWhile

/-!
# Words and the blanks around them

Trimming does not see blanks that are added at an end, nor the carriage return that a line may lose.
A word is a text without blanks. The last word of a text is the one before the blanks at its end,
and the words of a text are what stands between its blanks.

## Main definitions

* `Text.words`: the words of a text.

## Main results

* `Text.trim_append_left`, `Text.trim_append_right`: blanks at an end are trimmed.
* `Text.lastWord?_eq_some_iff`: what the last word is.
* `Text.getLast?_words`: it is the last of the words.
-/

namespace DoxTriage

namespace Text

variable {s t front word trail : Text} {gap : Char}

theorem isSolid_iff : isSolid s = true ↔ s ≠ [] ∧ ∀ c ∈ s, isBlank c = false := by
  simp [isSolid, List.all_eq_true]

theorem not_mem_of_isSolid {c : Char} (h : isSolid s = true) (hc : isBlank c = true) : c ∉ s := by
  intro hmem
  rw [(isSolid_iff.1 h).2 c hmem] at hc
  cases hc

/-! ### The return at the end of a line -/

theorem isBlank_return : isBlank '\r' = true := by decide

theorem dropReturn_of_ne (h : s.getLast? ≠ some '\r') : dropReturn s = s :=
  if_neg h

theorem isPrefix_dropReturn (s : Text) : dropReturn s <+: s := by
  rw [dropReturn]
  split
  · exact List.dropLast_prefix s
  · exact List.prefix_rfl

theorem not_mem_dropReturn {c : Char} (h : c ∉ s) : c ∉ dropReturn s :=
  fun hc => h ((isPrefix_dropReturn s).subset hc)

/-- Only the last of several parts can lose a return. -/
theorem dropReturn_append (h : t ≠ []) : dropReturn (s ++ t) = s ++ dropReturn t := by
  rw [dropReturn, dropReturn, List.getLast?_append_of_ne_nil _ h, List.dropLast_append_of_ne_nil h]
  split <;> rfl

/-- A word loses no return, and so only what stands behind it can. -/
theorem dropReturn_append_of_isSolid (h : isSolid word = true) :
    dropReturn (word ++ trail) = word ++ dropReturn trail := by
  cases trail with
  | nil =>
    rw [List.append_nil, dropReturn_of_ne]
    · exact (List.append_nil word).symm
    · exact fun hlast => not_mem_of_isSolid h isBlank_return (List.mem_of_getLast? hlast)
  | cons c trail => exact dropReturn_append (List.cons_ne_nil c trail)

/-- What a line loses is blank. -/
theorem exists_dropReturn_append (s : Text) :
    ∃ lost, s = dropReturn s ++ lost ∧ ∀ c ∈ lost, isBlank c = true := by
  rw [dropReturn]
  split
  · next hlast =>
    refine ⟨['\r'], (List.dropLast_append_getLast? _ hlast).symm, fun c hc => ?_⟩
    rw [List.mem_singleton.1 hc]
    exact isBlank_return
  · exact ⟨[], (List.append_nil s).symm, by simp⟩

/-! ### Trimming -/

theorem dropWhile_isBlank_of_forall (h : ∀ c ∈ t, isBlank c = true) : t.dropWhile isBlank = [] :=
  List.dropWhile_eq_nil_iff.2 h

theorem trimEnd_append (h : ∀ c ∈ t, isBlank c = true) : trimEnd (s ++ t) = trimEnd s := by
  rw [trimEnd, List.reverse_append, List.dropWhile_append_of_pos]
  · rfl
  · simpa using h

/-- Blanks in front are trimmed. -/
theorem trim_append_left (h : ∀ c ∈ s, isBlank c = true) : trim (s ++ t) = trim t := by
  rw [trim, trimStart, List.dropWhile_append_of_pos h]
  rfl

/-- Blanks at the end are trimmed. -/
theorem trim_append_right (h : ∀ c ∈ t, isBlank c = true) : trim (s ++ t) = trim s := by
  rw [trim, trim, trimStart, trimStart, List.dropWhile_append]
  split
  · next hnone =>
    rw [List.isEmpty_iff.1 hnone, dropWhile_isBlank_of_forall h]
  · exact trimEnd_append h

theorem trim_dropReturn (s : Text) : trim (dropReturn s) = trim s := by
  obtain ⟨lost, hs, hlost⟩ := exists_dropReturn_append s
  conv_rhs => rw [hs, trim_append_right hlost]

theorem isBlankLine_dropReturn (s : Text) : isBlankLine (dropReturn s) = isBlankLine s := by
  obtain ⟨lost, hs, hlost⟩ := exists_dropReturn_append s
  conv_rhs => rw [hs, isBlankLine, List.all_append, List.all_eq_true.2 hlost, Bool.and_true]
  rfl

/-! ### The last word -/

/-- The last word of a text stands between a blank and the blanks at the end. -/
theorem lastWord?_eq_some_iff :
    lastWord? s = some word ↔
      ∃ front gap trail, s = front ++ gap :: (word ++ trail) ∧ isBlank gap = true ∧
        isSolid word = true ∧ ∀ c ∈ trail, isBlank c = true := by
  constructor
  · intro h
    dsimp only [lastWord?] at h
    split at h
    · next hword =>
      cases h
      obtain ⟨hne, hrest⟩ := hword
      set back := s.reverse.dropWhile isBlank with hback
      obtain ⟨gap, front, hfront⟩ := List.exists_cons_of_ne_nil hrest
      have hgap := List.head?_dropWhile_not (! isBlank ·) back
      rw [hfront] at hgap
      have hreverse : s.reverse = s.reverse.takeWhile isBlank ++
          (back.takeWhile (! isBlank ·) ++ gap :: front) := by
        rw [← hfront, List.takeWhile_append_dropWhile, hback, List.takeWhile_append_dropWhile]
      refine ⟨front.reverse, gap, (s.reverse.takeWhile isBlank).reverse, ?_, by simpa using hgap,
        isSolid_iff.2 ⟨by simpa using hne, fun c hc => ?_⟩, fun c hc => ?_⟩
      · have hs := congrArg List.reverse hreverse
        rw [List.reverse_reverse] at hs
        exact hs.trans (by simp)
      · simpa using List.mem_takeWhile_imp (List.mem_reverse.1 hc)
      · exact List.mem_takeWhile_imp (List.mem_reverse.1 hc)
    · cases h
  · rintro ⟨front, gap, trail, rfl, hgap, hsolid, htrail⟩
    obtain ⟨hne, hword⟩ := isSolid_iff.1 hsolid
    have hreverse : (front ++ gap :: (word ++ trail)).reverse =
        trail.reverse ++ (word.reverse ++ gap :: front.reverse) := by simp
    obtain ⟨d, tail, hcons⟩ := List.exists_cons_of_ne_nil (List.reverse_ne_nil_iff.2 hne)
    have hd : isBlank d = false := hword d (List.mem_reverse.1 (hcons ▸ List.mem_cons_self ..))
    have hback : (trail.reverse ++ (word.reverse ++ gap :: front.reverse)).dropWhile isBlank =
        word.reverse ++ gap :: front.reverse := by
      rw [hcons, List.cons_append]
      exact dropWhile_span (by simpa using htrail) hd
    have hwhole : ∀ c ∈ word.reverse, (! isBlank c) = true := by simpa using hword
    have hstop : (! isBlank gap) = false := by rw [hgap]; rfl
    simp only [lastWord?, hreverse, hback, takeWhile_span hwhole hstop,
      dropWhile_span hwhole hstop, List.reverse_reverse]
    exact if_pos ⟨List.reverse_ne_nil_iff.2 hne, List.cons_ne_nil gap _⟩

/-! ### Words -/

/-- The words of a text: what stands between its blanks. -/
def words (s : Text) : List Text :=
  (s.splitOnP isBlank).filter (· ≠ [])

theorem words_append_cons (s t : Text) (h : isBlank gap = true) :
    words (s ++ gap :: t) = words s ++ words t := by
  rw [words, List.splitOnP_append_cons _ _ h, List.filter_append]
  rfl

theorem words_of_blank (h : ∀ c ∈ t, isBlank c = true) : words t = [] := by
  induction t with
  | nil => rfl
  | cons c t ih =>
    obtain ⟨hc, ht⟩ := List.forall_mem_cons.1 h
    have hsplit := words_append_cons [] t hc
    rw [List.nil_append] at hsplit
    rw [hsplit, ih ht]
    rfl

theorem words_of_isSolid (h : isSolid word = true) (htrail : ∀ c ∈ trail, isBlank c = true) :
    words (word ++ trail) = [word] := by
  obtain ⟨hne, hword⟩ := isSolid_iff.1 h
  have hone : words word = [word] := by
    rw [words, List.splitOnP_eq_singleton hword]
    simp [hne]
  cases trail with
  | nil => rw [List.append_nil, hone]
  | cons c trail =>
    obtain ⟨hc, htrail⟩ := List.forall_mem_cons.1 htrail
    rw [words_append_cons _ _ hc, hone, words_of_blank htrail, List.append_nil]

/-- The word before the blanks at the end is the last of the words. -/
theorem getLast?_words (hgap : isBlank gap = true) (h : isSolid word = true)
    (htrail : ∀ c ∈ trail, isBlank c = true) :
    (words (front ++ gap :: (word ++ trail))).getLast? = some word := by
  rw [words_append_cons _ _ hgap, words_of_isSolid h htrail, List.getLast?_concat]

end Text

end DoxTriage
