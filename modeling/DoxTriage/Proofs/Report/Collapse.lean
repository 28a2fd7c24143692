import DoxTriage.Proofs.Report
import DoxTriage.Proofs.Text.Span
import Mathlib.Data.List.Forall2
import Mathlib.Data.List.TakeWhile

/-!
# What is collapsed in a headline

To collapse a headline is to replace what is in parentheses, wherever that is found: from the left,
the first place where a parenthesized text begins, the longest one that begins there, and then on
behind it. A parenthesized text is in one line, but parentheses in it need not be balanced.
`Report.Replaced` says this without a word about lines.

Lines come out of it. From the first opening parenthesis of a line the longest parenthesized text
goes to the last closing one, and no closing parenthesis is left behind it, so there is one
replacement in a line at most. What a replacement leaves is `()`, and it is found again and replaced
by itself.

## Main definitions

* `Report.IsParenthesized`, `Report.Finds`: what is looked for, and where it is found.
* `Report.Replaced`: all that is found is replaced, from the left.
* `Report.LineCollapses`: what one line becomes.

## Main results

* `Report.replaced_collapse`: collapsing is replacing.
* `Report.collapse_by_lines`: collapsing is done line by line, and doing it again changes nothing.
-/

namespace DoxTriage

namespace Report

/-! ### Replacing -/

/-- A text in parentheses, all in one line. -/
def IsParenthesized (s : Text) : Prop :=
  ∃ inside, '\n' ∉ inside ∧ s = '(' :: (inside ++ [')'])

/-- The leftmost parenthesized text, and the longest one that begins there. -/
structure Finds (s front found back : Text) : Prop where
  eq_append : s = front ++ (found ++ back)
  isParenthesized : IsParenthesized found
  leftmost : ∀ earlier other later, s = earlier ++ (other ++ later) → IsParenthesized other →
    front.length ≤ earlier.length
  longest : ∀ other later, s = front ++ (other ++ later) → IsParenthesized other →
    other.length ≤ found.length

/-- No text in parentheses is anywhere in it. -/
def IsBare (s : Text) : Prop :=
  ∀ front found back, s = front ++ (found ++ back) → ¬ IsParenthesized found

/-- All that is found is replaced, from the left, each time behind what was found before. -/
inductive Replaced : Text → Text → Prop
  | bare {s : Text} (h : IsBare s) : Replaced s s
  | found {s front found back rest : Text} (h : Finds s front found back)
    (hrest : Replaced back rest) : Replaced s (front ++ '(' :: ')' :: rest)

theorem Finds.unique {s front found back front' found' back' : Text} (h : Finds s front found back)
    (h' : Finds s front' found' back') : front = front' ∧ back = back' := by
  have hfront : front.length = front'.length :=
    Nat.le_antisymm (h.leftmost _ _ _ h'.eq_append h'.isParenthesized)
      (h'.leftmost _ _ _ h.eq_append h.isParenthesized)
  obtain ⟨rfl, hrest⟩ := List.append_inj (h.eq_append.symm.trans h'.eq_append) hfront
  have hfound : found.length = found'.length :=
    Nat.le_antisymm (h'.longest _ _ h.eq_append h.isParenthesized)
      (h.longest _ _ h'.eq_append h'.isParenthesized)
  exact ⟨rfl, (List.append_inj hrest hfound).2⟩

theorem Replaced.unique {s t t' : Text} (h : Replaced s t) (h' : Replaced s t') : t = t' := by
  induction h generalizing t' with
  | bare hbare =>
    cases h' with
    | bare => rfl
    | found hfinds => exact absurd hfinds.isParenthesized (hbare _ _ _ hfinds.eq_append)
  | found hfinds hrest ih =>
    cases h' with
    | bare hbare => exact absurd hfinds.isParenthesized (hbare _ _ _ hfinds.eq_append)
    | found hfinds' hrest' =>
      obtain ⟨rfl, rfl⟩ := hfinds.unique hfinds'
      rw [ih hrest']

/-! ### One line -/

/-- What a line becomes: from its first opening parenthesis to its last closing one, if this one
comes later, all is left out but these two. -/
inductive LineCollapses : Text → Text → Prop
  | collapsed {front inside back : Text} (hfront : '(' ∉ front) (hback : ')' ∉ back) :
    LineCollapses (front ++ '(' :: (inside ++ ')' :: back)) (front ++ '(' :: ')' :: back)
  | unchanged {line : Text}
    (h : ∀ front inside back, line ≠ front ++ '(' :: (inside ++ ')' :: back)) :
    LineCollapses line line

theorem collapseLine_of_parentheses {front inside back : Text} (hfront : '(' ∉ front)
    (hback : ')' ∉ back) :
    collapseLine (front ++ '(' :: (inside ++ ')' :: back)) = front ++ '(' :: ')' :: back := by
  have hinside : (inside ++ ')' :: back).reverse = back.reverse ++ ')' :: inside.reverse := by simp
  have hreverse : ')' ∉ back.reverse := fun hmem => hback (List.mem_reverse.1 hmem)
  have hmem : ')' ∈ inside ++ ')' :: back := List.mem_append_right _ (List.mem_cons_self ..)
  simp only [collapseLine, Text.dropWhile_ne_span hfront, Text.takeWhile_ne_span hfront,
    List.tail_cons, if_pos hmem, hinside, Text.takeWhile_ne_span hreverse, List.reverse_reverse]
  simp

theorem collapseLine_of_bare {line : Text}
    (h : ∀ front inside back, line ≠ front ++ '(' :: (inside ++ ')' :: back)) :
    collapseLine line = line := by
  refine if_neg fun hclosing => ?_
  by_cases hopening : '(' ∈ line
  · obtain ⟨front, rest, rfl, hfront⟩ := List.eq_append_cons_of_mem hopening
    rw [Text.dropWhile_ne_span hfront, List.tail_cons] at hclosing
    obtain ⟨inside, back, rfl⟩ := List.append_of_mem hclosing
    exact h front inside back rfl
  · rw [List.dropWhile_eq_nil_iff.2 (Text.ne_of_not_mem hopening)] at hclosing
    cases hclosing

/-- Where a text has a character, that is behind every beginning that does not have it. -/
theorem exists_append_of_not_mem {c : Char} {first rest front back : Text} (hfirst : c ∉ first)
    (h : first ++ rest = front ++ c :: back) :
    ∃ more, front = first ++ more ∧ rest = more ++ c :: back := by
  rcases List.append_eq_append_iff.1 h with hmore | ⟨more, hmore, hrest⟩
  · exact hmore
  · cases more with
    | nil => exact ⟨[], by rw [hmore, List.append_nil, List.append_nil], hrest.symm⟩
    | cons d more =>
      obtain ⟨rfl, -⟩ := List.cons.inj hrest
      exact absurd (hmore ▸ List.mem_append_right front (List.mem_cons_self ..)) hfirst

/-- A line has an opening parenthesis and a closing one later, and then a first and a last one, or
it has not. -/
theorem lineCollapses_collapseLine (line : Text) : LineCollapses line (collapseLine line) := by
  by_cases hopening : '(' ∈ line
  · obtain ⟨front, rest, rfl, hfront⟩ := List.eq_append_cons_of_mem hopening
    by_cases hclosing : ')' ∈ rest
    · obtain ⟨back, inside, hreverse, hback⟩ :=
        List.eq_append_cons_of_mem (List.mem_reverse.2 hclosing)
      obtain rfl : rest = inside.reverse ++ ')' :: back.reverse := by
        rw [← List.reverse_reverse rest, hreverse]
        simp
      have hback : ')' ∉ back.reverse := fun hmem => hback (List.mem_reverse.1 hmem)
      rw [collapseLine_of_parentheses hfront hback]
      exact .collapsed hfront hback
    · have hbare : ∀ front' inside back,
          front ++ '(' :: rest ≠ front' ++ '(' :: (inside ++ ')' :: back) := by
        intro front' inside back h
        obtain ⟨more, -, hrest⟩ := exists_append_of_not_mem hfront h
        have hmem : ')' ∈ '(' :: rest := by
          rw [hrest]
          simp
        exact hclosing ((List.mem_cons.1 hmem).resolve_left (by decide))
      rw [collapseLine_of_bare hbare]
      exact .unchanged hbare
  · have hbare : ∀ front inside back, line ≠ front ++ '(' :: (inside ++ ')' :: back) := by
      rintro front inside back rfl
      exact hopening (List.mem_append_right front (List.mem_cons_self ..))
    rw [collapseLine_of_bare hbare]
    exact .unchanged hbare

/-- What is left of a line is left as it is. -/
theorem collapseLine_of_lineCollapses {line rest : Text} (h : LineCollapses line rest) :
    collapseLine rest = rest := by
  cases h with
  | @collapsed front inside back hfront hback =>
    exact @collapseLine_of_parentheses front [] back hfront hback
  | unchanged hbare => exact collapseLine_of_bare hbare

/-! ### Parentheses and lines -/

/-- A text in parentheses does not go over the end of a line: it is in the line or behind it. -/
theorem IsParenthesized.of_append_newline {line rest earlier other later : Text}
    (hother : IsParenthesized other) (h : line ++ '\n' :: rest = earlier ++ (other ++ later)) :
    (∃ later', line = earlier ++ (other ++ later')) ∨
      ∃ earlier', earlier = line ++ '\n' :: earlier' ∧ rest = earlier' ++ (other ++ later) := by
  obtain ⟨inside, hinside, rfl⟩ := hother
  have hnewline : '\n' ∉ '(' :: (inside ++ [')']) := by simpa using hinside
  rcases List.append_eq_append_iff.1 h with ⟨more, hearlier, hrest⟩ | ⟨more, hline, hrest⟩
  · cases more with
    | nil => cases (List.cons.inj hrest).1
    | cons c more =>
      rw [List.cons_append, List.cons.injEq] at hrest
      obtain ⟨rfl, hrest⟩ := hrest
      exact .inr ⟨more, hearlier, hrest⟩
  · rcases List.append_eq_append_iff.1 hrest with ⟨after, hmore, -⟩ | ⟨after, hother, hlater⟩
    · exact .inl ⟨after, by rw [hline, hmore]⟩
    · cases after with
      | nil => exact .inl ⟨[], by rw [hline, hother, List.append_nil, List.append_nil]⟩
      | cons c after =>
        obtain ⟨rfl, -⟩ := List.cons.inj hlater
        exact absurd (hother ▸ List.mem_append_right more (List.mem_cons_self ..)) hnewline

/-- In front of a line there may be lines without text in parentheses. -/
theorem Replaced.after_line {line rest t : Text} (hline : IsBare line) (h : Replaced rest t) :
    Replaced (line ++ '\n' :: rest) (line ++ '\n' :: t) := by
  cases h with
  | bare hrest =>
    refine .bare fun earlier other later heq hother => ?_
    rcases hother.of_append_newline heq with ⟨later', hin⟩ | ⟨earlier', -, hin⟩
    · exact hline _ _ _ hin hother
    · exact hrest _ _ _ hin hother
  | @found _ front found back t h hrest =>
    have hfinds : Finds (line ++ '\n' :: rest) (line ++ '\n' :: front) found back := by
      refine ⟨by rw [h.eq_append]; simp, h.isParenthesized,
        fun earlier other later heq hother => ?_, fun other later heq hother => ?_⟩
      · rcases hother.of_append_newline heq with ⟨later', hin⟩ | ⟨earlier', rfl, hin⟩
        · exact absurd hother (hline _ _ _ hin)
        · have hle := h.leftmost _ _ _ hin hother
          simpa using hle
      · refine h.longest other later ?_ hother
        simpa using heq
    have hreplaced := Replaced.found hfinds hrest
    rwa [List.append_assoc] at hreplaced

/-- The parentheses of a line are found in front of whatever comes in later lines. -/
theorem finds_parentheses {front inside back rest : Text} (hinside : '\n' ∉ inside)
    (hfront : '(' ∉ front) (hback : ')' ∉ back) (hrest : ∀ c ∈ rest.head?, c = '\n') :
    Finds (front ++ '(' :: (inside ++ ')' :: back) ++ rest) front ('(' :: (inside ++ [')']))
      (back ++ rest) where
  eq_append := by simp
  isParenthesized := ⟨inside, hinside, rfl⟩
  leftmost := by
    rintro earlier _ later heq ⟨other, -, rfl⟩
    rw [List.append_assoc] at heq
    obtain ⟨more, rfl, -⟩ := exists_append_of_not_mem hfront heq
    rw [List.length_append]
    exact Nat.le_add_right ..
  longest := by
    rintro _ later heq ⟨other, hother, rfl⟩
    have heq : inside ++ [')'] ++ (back ++ rest) = other ++ ')' :: later := by simpa using heq
    have hle : other.length ≤ inside.length := by
      by_contra hlt
      -- a longer one has the last closing parenthesis of the line inside, and goes over its end
      obtain ⟨more, rfl⟩ : inside ++ [')'] <+: other := by
        refine List.prefix_of_prefix_length_le ⟨_, heq⟩ ⟨_, rfl⟩ ?_
        rw [List.length_append, List.length_singleton]
        omega
      rw [List.append_assoc _ more, List.append_cancel_left_eq] at heq
      obtain ⟨after, rfl, hafter⟩ := exists_append_of_not_mem hback heq
      cases after with
      | nil =>
        rw [List.nil_append] at hafter
        exact absurd (hrest ')' (by simp [hafter])) (by decide)
      | cons c after =>
        obtain rfl := hrest c (by simp [hafter])
        simp at hother
    simpa using hle

theorem isBare_of_not_mem {s : Text} (h : ')' ∉ s) : IsBare s := by
  rintro front _ back rfl ⟨inside, -, rfl⟩
  simp at h

/-- A line becomes what it collapses to, if what is behind it is replaced in the same way behind any
line without parentheses to be found. -/
theorem Replaced.line {line rest t : Text} (hline : '\n' ∉ line)
    (hrest : ∀ c ∈ rest.head?, c = '\n')
    (h : ∀ bare, IsBare bare → Replaced (bare ++ rest) (bare ++ t)) :
    Replaced (line ++ rest) (collapseLine line ++ t) := by
  have hcollapses := lineCollapses_collapseLine line
  generalize collapseLine line = result at hcollapses
  cases hcollapses with
  | @collapsed front inside back hfront hback =>
    have hinside : '\n' ∉ inside := by
      intro hmem
      simp [hmem] at hline
    have hreplaced := Replaced.found (finds_parentheses hinside hfront hback hrest)
      (h back (isBare_of_not_mem hback))
    simpa using hreplaced
  | unchanged hbare =>
    refine h line ?_
    rintro front _ back heq ⟨inside, -, rfl⟩
    exact hbare front inside back (by simpa using heq)

/-! ### Headlines -/

theorem collapse_append_newline {line : Text} (h : '\n' ∉ line) (rest : Text) :
    collapse (line ++ '\n' :: rest) = collapseLine line ++ '\n' :: collapse rest := by
  obtain ⟨first, others, hrest⟩ := List.exists_cons_of_ne_nil (Text.split_ne_nil '\n' rest)
  rw [collapse, collapse, Text.pieces, Text.pieces, Text.split_append_separator,
    Text.split_of_not_mem h, hrest]
  simp [Text.join_cons]

/-- **Collapsing is replacing.** The induction is on the length of the headline: behind its first
line feed there is a shorter one. -/
theorem replaced_collapse (headline : Text) : Replaced headline (collapse headline) := by
  by_cases hnewline : '\n' ∈ headline
  · obtain ⟨line, rest, rfl, hline⟩ := List.eq_append_cons_of_mem hnewline
    have hrest := replaced_collapse rest
    rw [collapse_append_newline hline]
    exact .line hline (by simp) fun bare hbare => hrest.after_line hbare
  · have hbare : ∀ bare, IsBare bare → Replaced (bare ++ []) (bare ++ []) := by
      intro bare h
      rw [List.append_nil]
      exact .bare h
    have hline := Replaced.line hnewline (by simp) hbare
    rwa [List.append_nil, List.append_nil, ← collapse_of_not_mem hnewline] at hline
termination_by headline.length
decreasing_by
  subst_vars
  simp
  omega

/-- **Headlines are collapsed line by line.** To collapse is to replace all parenthesized texts from
the left, the longest one at each place, and that comes to this: each line becomes what stands in
front of its first opening parenthesis and behind its last closing one, with `()` between, if the
one comes before the other; every other line stays as it is. Collapsing again changes nothing. -/
theorem collapse_by_lines (headline : Text) :
    (∀ t, Replaced headline t ↔ t = collapse headline) ∧
      List.Forall₂ LineCollapses (Text.pieces headline) (Text.pieces (collapse headline)) ∧
      collapse (collapse headline) = collapse headline := by
  have hlines : Text.pieces (collapse headline) = (Text.pieces headline).map collapseLine := by
    refine Text.pieces_join ?_ ?_
    · simpa using Text.split_ne_nil '\n' headline
    · intro part hpart
      obtain ⟨line, hline, rfl⟩ := List.mem_map.1 hpart
      exact not_mem_collapseLine (Text.not_mem_of_mem_split hline)
  have hcollapses : List.Forall₂ LineCollapses (Text.pieces headline)
      ((Text.pieces headline).map collapseLine) :=
    List.forall₂_map_right_iff.2
      (List.forall₂_same.2 fun line _ => lineCollapses_collapseLine line)
  refine ⟨fun t => ⟨fun h => h.unique (replaced_collapse headline), ?_⟩, hlines ▸ hcollapses, ?_⟩
  · rintro rfl
    exact replaced_collapse headline
  · have hagain : ((Text.pieces headline).map collapseLine).map collapseLine =
        (Text.pieces headline).map collapseLine := by
      rw [List.map_map]
      exact List.map_congr_left fun line _ =>
        collapseLine_of_lineCollapses (lineCollapses_collapseLine line)
    rw [collapse, hlines, hagain]
    rfl

end Report

end DoxTriage
