import DoxTriage.ParameterList
import DoxTriage.Proofs.Text.Span
import Mathlib.Data.List.Infix
import Mathlib.Data.List.TakeWhile

/-!
# Names that hide themselves

What declares a name is a pattern: a character that is no word part, the name, blanks, and then a
comma or the parenthesis that ends the list. The pattern may fit anywhere. The search for it looks
at fewer places, since it goes on behind an occurrence that it has found, and an occurrence that
begins inside that one is passed over.

Whether this matters is a question about the name alone. An occurrence that counts has a character
in front of it that is no word part. If it begins inside another occurrence then that character is
one of the name's own, and what follows the character in the name is how the name begins. Names
without such a character, all words among them, are found wherever the pattern fits. For each other
name there is a list with only two occurrences, the first of which hides the second.

## Main definitions

* `ParameterList.Declared`: the pattern fits somewhere in a list.
* `ParameterList.HidesItself`: an occurrence that counts can begin inside another one.

## Main results

* `ParameterList.mem_occurrencesFrom`: the search finds what is not hidden.
* `ParameterList.declares_iff_declared_iff`: the search and the pattern agree on all lists exactly
  if the name does not hide itself.
-/

namespace DoxTriage

namespace ParameterList

/-! ### The pattern -/

/-- What may follow a parameter's name: blanks, and then a comma or the end of the list. -/
def Closes (rest : Text) : Prop :=
  ∃ blanks, (∀ c ∈ blanks, isBlank c = true) ∧
    ((∃ after, rest = blanks ++ ',' :: after) ∨ rest = blanks ++ [')'])

/-- Somewhere in the list, blanks at its end not counted, the name stands behind a character that is
no word part, and what follows it closes the parameter. -/
def Declared (list name : Text) : Prop :=
  ∃ before c rest, Text.trimEnd list = before ++ c :: (name ++ rest) ∧ isWordPart c = false ∧
    Closes rest

/-- The name goes on, behind a character that is no word part, in the way it begins. -/
def HidesItself (name : Text) : Prop :=
  ∃ front c back, name = front ++ c :: back ∧ isWordPart c = false ∧ back ≠ [] ∧ back <+: name

variable {name s rest before : Text} {pass : Nat}

theorem not_hidesItself_of_isWordPart (h : ∀ c ∈ name, isWordPart c = true) :
    ¬ HidesItself name := by
  rintro ⟨front, c, back, rfl, hc, -, -⟩
  rw [h c (List.mem_append_right _ (List.mem_cons_self ..))] at hc
  cases hc

theorem closes_iff :
    Closes rest ↔
      (Text.trimStart rest).head? = some ',' ∨ Text.trimStart rest = [')'] := by
  have hcomma : isBlank ',' = false := by decide
  have hparen : isBlank ')' = false := by decide
  constructor
  · rintro ⟨blanks, hblanks, ⟨after, rfl⟩ | rfl⟩
    · left
      rw [Text.trimStart, Text.dropWhile_span hblanks hcomma]
      rfl
    · right
      rw [Text.trimStart, Text.dropWhile_span hblanks hparen]
  · intro h
    have hrest : rest = rest.takeWhile isBlank ++ Text.trimStart rest :=
      List.takeWhile_append_dropWhile.symm
    refine ⟨rest.takeWhile isBlank, fun c hc => List.mem_takeWhile_imp hc, ?_⟩
    rcases h with hhead | hend
    · obtain ⟨after, hafter⟩ := List.head?_eq_some_iff.1 hhead
      exact .inl ⟨after, by rw [← hafter, ← hrest]⟩
    · exact .inr (by rw [← hend, ← hrest])

/-- An occurrence declares the name if the pattern fits there. -/
theorem Occurrence.declares_iff {occurrence : Occurrence} :
    occurrence.declares = true ↔
      (∃ c, occurrence.previous = some c ∧ isWordPart c = false) ∧ Closes occurrence.rest := by
  rw [Occurrence.declares, Bool.and_eq_true, Bool.or_eq_true, decide_eq_true_iff,
    decide_eq_true_iff, closes_iff, Option.any_eq_true]
  simp only [Bool.not_eq_true', and_comm]

/-! ### The search

The search is at some place of a text, with `before` in front of the place, and has to pass over
some characters that belong to an occurrence it has found. -/

/-- Where the name is found, its other characters are passed over. -/
theorem occurrencesFrom_of_append {d : Char} (previous : Option Char) (h : name ++ rest = d :: s) :
    occurrencesFrom name 0 previous (d :: s) =
      ⟨previous, rest⟩ :: occurrencesFrom name (name.length - 1) (some d) s := by
  rw [occurrencesFrom, if_pos rfl, List.isPrefixOf?_eq_some_iff_append_eq.2 h]

/-- What is found is an occurrence, and it begins behind the characters that are passed over. -/
theorem of_mem_occurrencesFrom {occurrence : Occurrence}
    (h : occurrence ∈ occurrencesFrom name pass before.getLast? s) :
    ∃ front, s = front ++ (name ++ occurrence.rest) ∧ pass ≤ front.length ∧
      occurrence.previous = (before ++ front).getLast? := by
  induction s generalizing pass before with
  | nil => cases h
  | cons d s ih =>
    have hlast : some d = (before ++ [d]).getLast? := List.getLast?_concat.symm
    -- an occurrence that is found one place later
    have hlater : ∀ {n : Nat}, occurrence ∈ occurrencesFrom name n (some d) s → pass ≤ n + 1 →
        ∃ front, d :: s = front ++ (name ++ occurrence.rest) ∧ pass ≤ front.length ∧
          occurrence.previous = (before ++ front).getLast? := by
      intro n hmem hle
      rw [hlast] at hmem
      obtain ⟨front, rfl, hn, hprevious⟩ := ih hmem
      rw [← List.append_cons] at hprevious
      exact ⟨d :: front, rfl, hle.trans (Nat.succ_le_succ hn), hprevious⟩
    rw [occurrencesFrom] at h
    split at h
    · next hpass =>
      subst hpass
      split at h
      · next found hfound =>
        rcases List.mem_cons.1 h with rfl | h
        · exact ⟨[], (List.isPrefixOf?_eq_some_iff_append_eq.1 hfound).symm, Nat.zero_le _,
            by rw [List.append_nil]⟩
        · exact hlater h (Nat.zero_le _)
      · exact hlater h (Nat.zero_le _)
    · exact hlater h (by omega)

/-- The characters to be passed over are the rest of an occurrence that has begun before. -/
def EndsOccurrence (name before s : Text) (pass : Nat) : Prop :=
  pass = 0 ∨ ∃ earlier begun, before = earlier ++ begun ∧ begun ≠ [] ∧ pass ≤ s.length ∧
    name = begun ++ s.take pass

theorem EndsOccurrence.succ {d : Char} (h : EndsOccurrence name before (d :: s) (pass + 1)) :
    EndsOccurrence name (before ++ [d]) s pass := by
  obtain hzero | ⟨earlier, begun, rfl, -, hle, hname⟩ := h
  · cases hzero
  · refine .inr ⟨earlier, begun ++ [d], List.append_assoc .., by simp,
      Nat.le_of_succ_le_succ hle, ?_⟩
    rw [hname, List.take_succ_cons, List.append_assoc]
    rfl

/-- Where an occurrence is found, the rest of it is what has to be passed over. -/
theorem endsOccurrence_of_append {d : Char} (hname : name ≠ [])
    (h : name ++ rest = d :: s) : EndsOccurrence name (before ++ [d]) s (name.length - 1) := by
  obtain ⟨c, tail, rfl⟩ := List.exists_cons_of_ne_nil hname
  rw [List.cons_append] at h
  obtain ⟨rfl, rfl⟩ := List.cons.inj h
  refine .inr ⟨before, [c], rfl, List.cons_ne_nil c [], ?_, ?_⟩
  · rw [List.length_append]
    exact Nat.le_add_right ..
  · rw [List.length_cons, Nat.add_sub_cancel, List.take_left, List.singleton_append]

/-- Of a name that does not hide itself, an occurrence behind a character that is no word part does
not begin inside another one. -/
theorem EndsOccurrence.le_length {front : Text} {c : Char}
    (h : EndsOccurrence name before (front ++ (name ++ rest)) pass) (hname : name ≠ [])
    (hplain : ¬ HidesItself name) (hprevious : (before ++ front).getLast? = some c)
    (hc : isWordPart c = false) : pass ≤ front.length := by
  obtain rfl | ⟨earlier, begun, rfl, hbegun, -, hwhole⟩ := h
  · exact Nat.zero_le _
  · by_contra hlt
    obtain ⟨n, rfl⟩ := Nat.exists_eq_add_of_lt (Nat.lt_of_not_le hlt)
    -- the character in front of the inner occurrence is one of the outer one
    have hinside : (begun ++ front).getLast? = some c := by
      rw [List.append_assoc, List.getLast?_append_of_ne_nil] at hprevious
      · exact hprevious
      · simp [hbegun]
    have hsplit := List.dropLast_append_getLast? c hinside
    have htake : (front ++ (name ++ rest)).take (front.length + n + 1) =
        front ++ (name ++ rest).take (n + 1) := by
      rw [Nat.add_assoc, List.take_length_add_append]
    have hlength : n + 1 ≤ name.length := by
      have hpositive := List.length_pos_of_ne_nil hbegun
      have htotal := congrArg List.length hwhole
      rw [htake] at htotal
      simp only [List.length_append, List.length_take] at htotal
      omega
    refine hplain ⟨(begun ++ front).dropLast, c, name.take (n + 1), ?_, hc, ?_,
      List.take_prefix ..⟩
    · rw [List.append_cons, hsplit, List.append_assoc]
      rwa [htake, List.take_append_of_le_length hlength] at hwhole
    · simp [hname]

/-- **The search finds what is not hidden.** The induction is on the text, and with each character
one less is to be passed over. -/
theorem mem_occurrencesFrom {front : Text} {c : Char} (hname : name ≠ [])
    (hplain : ¬ HidesItself name)
    (h : EndsOccurrence name before (front ++ (name ++ rest)) pass)
    (hprevious : (before ++ front).getLast? = some c) (hc : isWordPart c = false) :
    ⟨some c, rest⟩ ∈ occurrencesFrom name pass before.getLast? (front ++ (name ++ rest)) := by
  induction front generalizing pass before with
  | nil =>
    have hpass : pass = 0 := Nat.le_zero.1 (h.le_length hname hplain hprevious hc)
    obtain ⟨d, s, hcons⟩ :=
      List.exists_cons_of_ne_nil (List.append_ne_nil_of_left_ne_nil hname rest)
    rw [List.append_nil] at hprevious
    rw [hpass, List.nil_append, hprevious, hcons, occurrencesFrom_of_append _ hcons]
    exact List.mem_cons_self ..
  | cons d front ih =>
    have hle := h.le_length hname hplain hprevious hc
    have hlast : some d = (before ++ [d]).getLast? := List.getLast?_concat.symm
    rw [List.append_cons] at hprevious
    rw [List.cons_append, occurrencesFrom, hlast]
    cases pass with
    | zero =>
      rw [if_pos rfl]
      cases hfound : name.isPrefixOf? (d :: (front ++ (name ++ rest))) with
      | none => exact ih (.inl rfl) hprevious
      | some found =>
        have hbegins := List.isPrefixOf?_eq_some_iff_append_eq.1 hfound
        exact List.mem_cons_of_mem _ (ih (endsOccurrence_of_append hname hbegins) hprevious)
    | succ pass =>
      rw [if_neg (Nat.succ_ne_zero _), Nat.add_sub_cancel]
      exact ih h.succ hprevious

/-! ### The search and the pattern -/

theorem declares_iff (hname : name ≠ []) {list : Text} :
    declares list name = true ↔
      ∃ occurrence ∈ occurrences name (Text.trimEnd list), occurrence.declares = true := by
  simp [declares, hname, List.any_eq_true]

/-- Where the search says yes, the pattern fits. -/
theorem declared_of_declares {list : Text} (h : declares list name = true) :
    Declared list name := by
  have hname : name ≠ [] := by
    rintro rfl
    cases h
  obtain ⟨occurrence, hmem, hdeclares⟩ := (declares_iff hname).1 h
  obtain ⟨⟨c, hprevious, hc⟩, hcloses⟩ := Occurrence.declares_iff.1 hdeclares
  have hnil : (none : Option Char) = ([] : Text).getLast? := rfl
  rw [occurrences, hnil] at hmem
  obtain ⟨front, hlist, -, hlast⟩ := of_mem_occurrencesFrom hmem
  rw [hprevious, List.nil_append] at hlast
  refine ⟨front.dropLast, c, occurrence.rest, ?_, hc, hcloses⟩
  rw [List.append_cons, List.dropLast_append_getLast? c hlast.symm, hlist]

theorem declares_of_declared {list : Text} (hname : name ≠ []) (hplain : ¬ HidesItself name)
    (h : Declared list name) : declares list name = true := by
  obtain ⟨before, c, rest, hlist, hc, hcloses⟩ := h
  have hmem : ⟨some c, rest⟩ ∈ occurrences name (Text.trimEnd list) := by
    rw [hlist, List.append_cons]
    -- the search begins with nothing in front of the list
    have hnil : (none : Option Char) = ([] : Text).getLast? := rfl
    rw [occurrences, hnil]
    exact mem_occurrencesFrom hname hplain (.inl rfl) List.getLast?_concat hc
  exact (declares_iff hname).2 ⟨_, hmem, Occurrence.declares_iff.2 ⟨⟨c, rfl, hc⟩, hcloses⟩⟩

/-- A list of a name that hides itself: its second occurrence begins inside the first one, and
nothing is left for a third one. -/
theorem exists_declared_not_declares (h : HidesItself name) :
    ∃ list, Declared list name ∧ declares list name = false := by
  obtain ⟨front, c, back, hsplit, hc, hback, tail, htail⟩ := h
  have hname : name ≠ [] := by
    rw [hsplit]
    exact List.append_ne_nil_of_right_ne_nil _ (List.cons_ne_nil c back)
  have hend : Text.trimEnd (front ++ c :: (name ++ [','])) = front ++ c :: (name ++ [',']) := by
    have hcomma : isBlank ',' = false := by decide
    simp [Text.trimEnd, hcomma]
  refine ⟨front ++ c :: (name ++ [',']),
    ⟨front, c, [','], hend, hc, [], by simp, .inl ⟨[], rfl⟩⟩, ?_⟩
  obtain ⟨d, s, hcons⟩ := List.exists_cons_of_ne_nil
    (List.append_ne_nil_of_left_ne_nil hname (tail ++ [',']))
  have hfirst : front ++ c :: (name ++ [',']) = d :: s :=
    calc front ++ c :: (name ++ [','])
      _ = front ++ c :: (back ++ tail ++ [',']) := by rw [htail]
      _ = front ++ c :: back ++ (tail ++ [',']) := by
        simp only [List.append_assoc, List.cons_append]
      _ = d :: s := by rw [← hsplit, hcons]
  rw [Bool.eq_false_iff]
  intro hdeclares
  obtain ⟨occurrence, hmem, hoccurrence⟩ := (declares_iff hname).1 hdeclares
  obtain ⟨⟨previous, hprevious, -⟩, hcloses⟩ := Occurrence.declares_iff.1 hoccurrence
  rw [hend, hfirst, occurrences, occurrencesFrom_of_append none hcons] at hmem
  rcases List.mem_cons.1 hmem with rfl | hmem
  · cases hprevious
  · have hlast : some d = ([d] : Text).getLast? := rfl
    rw [hlast] at hmem
    obtain ⟨between, hs, hpass, -⟩ := of_mem_occurrencesFrom hmem
    have hrest : occurrence.rest = [] := by
      have hback := List.length_pos_of_ne_nil hback
      have hlist := congrArg List.length hfirst
      have hwhole := congrArg List.length hsplit
      rw [hs] at hlist
      simp only [List.length_append, List.length_cons, List.length_nil] at hlist hwhole
      exact List.length_eq_zero_iff.1 (by omega)
    rw [closes_iff, hrest] at hcloses
    rcases hcloses with hcomma | hparen
    · cases hcomma
    · cases hparen

/-- **The search is the pattern, for names that do not hide themselves.** It never finds more. It
finds the same on every list exactly if the name does not go on, behind a character that is no word
part, in the way it begins. -/
theorem declares_iff_declared_iff (hname : name ≠ []) :
    (∀ list, declares list name = true → Declared list name) ∧
      ((∀ list, declares list name = true ↔ Declared list name) ↔ ¬ HidesItself name) := by
  refine ⟨fun list => declared_of_declares, ?_, ?_⟩
  · intro hall hhides
    obtain ⟨list, hdeclared, hmissed⟩ := exists_declared_not_declares hhides
    rw [(hall list).2 hdeclared] at hmissed
    cases hmissed
  · intro hplain list
    exact ⟨declared_of_declares, declares_of_declared hname hplain⟩

/-- The occurrences of this name overlap, but none that counts is hidden. -/
theorem declares_iff_declared_of_word :
    let name := "aa".toList
    name ≠ [] ∧ (∀ list, declares list name = true ↔ Declared list name) ∧
      Declared "(aaa, aa )".toList name := by
  intro name
  have hname : name ≠ [] := by decide
  have hplain : ¬ HidesItself name := not_hidesItself_of_isWordPart (List.all_eq_true.1 (by decide))
  have hiff := (declares_iff_declared_iff hname).2.2 hplain
  exact ⟨hname, hiff, (hiff _).1 (by decide +kernel)⟩

/-- Behind the first dash stands the name, with a comma after it; but the search has found the name
one place earlier, where no comma follows. -/
theorem not_declares_of_declared :
    ¬ (declares "(---, x)".toList "--".toList = true ↔ Declared "(---, x)".toList "--".toList) := by
  intro h
  have hdeclared : Declared "(---, x)".toList "--".toList :=
    ⟨['('], '-', ", x)".toList, by decide +kernel, by decide, [], by simp, .inl ⟨_, rfl⟩⟩
  have hmissed : declares "(---, x)".toList "--".toList = false := by decide +kernel
  rw [h.2 hdeclared] at hmissed
  cases hmissed

end ParameterList

end DoxTriage
