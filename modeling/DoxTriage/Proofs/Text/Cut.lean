import DoxTriage.Text.Basic

/-!
# Where a text is cut

A cut is found by a search, and what it found is the first place there is. The laws say so without
the search: a place is given by what stands in front of it, and earlier places are those with less
in front of them.

## Main results

* `Text.firstCut?_eq_some_iff`: the first cut is the first place where the rest is accepted.
* `Text.lastCut?_eq_some_iff`: the last cut is the last such place.
* `Text.lastCut?_of_append`: behind the last cut there is no other one.
-/

namespace DoxTriage

namespace Text

variable {α : Type} {read : Text → Option α} {s front : Text} {a : α}

/-- The first cut is a cut, and there is none with less in front of it. -/
theorem firstCut?_eq_some_iff :
    firstCut? read s = some (front, a) ↔
      (∃ rest, s = front ++ rest ∧ read rest = some a) ∧
        ∀ earlier later, s = earlier ++ later → earlier.length < front.length →
          read later = none := by
  constructor
  · intro h
    refine ⟨firstCut?_eq_some h, ?_⟩
    induction s generalizing front with
    | nil =>
      obtain ⟨b, -, hfront⟩ := Option.map_eq_some_iff.1 h
      cases hfront
      intro earlier later _ hlt
      exact absurd hlt (Nat.not_lt_zero _)
    | cons c s ih =>
      intro earlier later hs hlt
      rw [firstCut?] at h
      split at h
      · cases h
        exact absurd hlt (Nat.not_lt_zero _)
      · next hnone =>
        obtain ⟨⟨rest, b⟩, hcut, hfront⟩ := Option.map_eq_some_iff.1 h
        cases hfront
        cases earlier with
        | nil =>
          cases hs
          exact hnone
        | cons d earlier =>
          exact ih hcut earlier later (List.cons.inj hs).2 (Nat.lt_of_succ_lt_succ hlt)
  · rintro ⟨⟨rest, rfl, hread⟩, hfirst⟩
    induction front with
    | nil => cases rest <;> simp [firstCut?, hread]
    | cons c front ih =>
      have hcut := ih fun earlier later hs hlt =>
        hfirst (c :: earlier) later (congrArg (List.cons c) hs) (Nat.succ_lt_succ hlt)
      have hnone : read (c :: (front ++ rest)) = none := hfirst [] _ rfl (Nat.zero_lt_succ _)
      rw [List.cons_append, firstCut?, hnone, hcut]
      rfl

theorem lastCut?_eq_none_iff :
    lastCut? read s = none ↔ ∀ front rest, s = front ++ rest → read rest = none := by
  induction s with
  | nil =>
    rw [lastCut?, Option.map_eq_none_iff]
    constructor
    · intro h front rest hs
      rwa [(List.append_eq_nil_iff.1 hs.symm).2]
    · exact fun h => h [] [] rfl
  | cons c s ih =>
    rw [lastCut?]
    cases hcut : lastCut? read s with
    | some cut =>
      refine iff_of_false (by simp) fun h => ?_
      have hnone := ih.2 fun front rest hs => h (c :: front) rest (congrArg (List.cons c) hs)
      cases hcut.symm.trans hnone
    | none =>
      dsimp only
      rw [Option.map_eq_none_iff]
      constructor
      · intro h front rest hs
        cases front with
        | nil =>
          cases hs
          exact h
        | cons d front => exact ih.1 hcut front rest (List.cons.inj hs).2
      · exact fun h => h [] _ rfl

/-- The last cut is a cut, and there is none with more in front of it. -/
theorem lastCut?_eq_some_iff :
    lastCut? read s = some (front, a) ↔
      (∃ rest, s = front ++ rest ∧ read rest = some a) ∧
        ∀ longer later, s = longer ++ later → front.length < longer.length →
          read later = none := by
  constructor
  · intro h
    refine ⟨lastCut?_eq_some h, ?_⟩
    induction s generalizing front with
    | nil =>
      intro longer later hs hlt
      rw [(List.append_eq_nil_iff.1 hs.symm).1] at hlt
      exact absurd hlt (Nat.not_lt_zero _)
    | cons c s ih =>
      intro longer later hs hlt
      cases longer with
      | nil => exact absurd hlt (Nat.not_lt_zero _)
      | cons d longer =>
        rw [lastCut?] at h
        split at h
        · next cut hcut =>
          cases h
          exact ih hcut longer later (List.cons.inj hs).2 (Nat.lt_of_succ_lt_succ hlt)
        · next hnone => exact lastCut?_eq_none_iff.1 hnone longer later (List.cons.inj hs).2
  · rintro ⟨⟨rest, rfl, hread⟩, hlast⟩
    induction front with
    | nil =>
      cases rest with
      | nil => rw [List.nil_append, lastCut?, hread]; rfl
      | cons c rest =>
        have hnone : lastCut? read rest = none := lastCut?_eq_none_iff.2 fun front later hs =>
          hlast (c :: front) later (congrArg (List.cons c) hs) (Nat.zero_lt_succ _)
        rw [List.nil_append, lastCut?, hnone, hread]
        rfl
    | cons c front ih =>
      have hcut := ih fun longer later hs hlt =>
        hlast (c :: longer) later (congrArg (List.cons c) hs) (Nat.succ_lt_succ hlt)
      rw [List.cons_append, lastCut?, hcut]

/-- A text that begins at the last cut of another one is cut there. -/
theorem lastCut?_of_append {rest : Text} (h : lastCut? read (front ++ rest) = some (front, a)) :
    lastCut? read rest = some ([], a) := by
  induction front with
  | nil => exact h
  | cons c front ih =>
    rw [List.cons_append, lastCut?] at h
    split at h
    · next cut hcut =>
      cases h
      exact ih hcut
    · -- a cut in front of everything has nothing in front of it
      obtain ⟨b, -, hfront⟩ := Option.map_eq_some_iff.1 h
      cases hfront

end Text

end DoxTriage
