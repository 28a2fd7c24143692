import DoxTriage.Proofs.Ascending
import Mathlib.Data.List.Forall2

/-!
# The first failure

Whatever is read, records or lines or documents, is read in order, and the first thing that is wrong
ends the reading. What such a reading fails with is a matter of the list alone: of the first item at
which the check fails, with everything before it in order (`FailsFirst`).

In an ascending list there is a second way to say which item comes first, by its key. It does not
mention the list at all except for its members (`failsFirst_iff_of_ascending`).

## Main definitions

* `FailsFirst`: the first item of a list at which a check fails, fails like this.

## Main results

* `mapM_eq_error_iff`, `exists_mapM_eq_ok_iff`: a list fails as its first failing item does, and
  succeeds when there is none.
* `mapM_eq_ok_iff`: what comes of a list comes of its items one by one.
* `mapM_map_eq`: what is done to each result is done to all of them.
* `mapM_eq_ok_of_forall`: another check with the same successes succeeds on the list.
* `mapM_congr_of_mem`: another check with the same results has the same result on the list.
* `exists_of_mem_mapM`: what comes of a list comes of its items.
* `failsFirst_iff_of_ascending`: the first failing item has the least key.
-/

namespace DoxTriage

variable {ε α β : Type}

/-! ### Results in sequence -/

namespace Except

variable {result : Except ε α} {next : α → Except ε β} {failure : ε}

theorem bind_eq_ok_iff {b : β} :
    result >>= next = .ok b ↔ ∃ a, result = .ok a ∧ next a = .ok b := by
  cases result <;> simp [bind, Except.bind]

theorem bind_eq_error_iff :
    result >>= next = .error failure ↔
      result = .error failure ∨ ∃ a, result = .ok a ∧ next a = .error failure := by
  cases result <;> simp [bind, Except.bind]

theorem map_eq_ok_iff {f : α → β} {b : β} :
    result.map f = .ok b ↔ ∃ a, result = .ok a ∧ f a = b := by
  cases result <;> simp [Except.map]

theorem map_eq_error_iff {f : α → β} :
    result.map f = .error failure ↔ result = .error failure := by
  cases result <;> simp [Except.map]

theorem exists_eq_ok_iff : (∃ a, result = .ok a) ↔ ∀ failure, result ≠ .error failure := by
  cases result <;> simp

/-- What comes next matters only for the result that there is. -/
theorem bind_congr_of_ok {other : α → Except ε β} (h : ∀ a, result = .ok a → next a = other a) :
    result >>= next = result >>= other := by
  cases result with
  | error failure => rfl
  | ok a => exact h a rfl

end Except

/-! ### Going through a list -/

/-- Everything before some item of a list passes a check, and the item fails like this. -/
def FailsFirst (check : α → Except ε β) (items : List α) (failure : ε) : Prop :=
  ∃ before item after, items = before ++ item :: after ∧
    (∀ earlier ∈ before, ∃ b, check earlier = .ok b) ∧ check item = .error failure

section FailsFirst

variable {check : α → Except ε β} {items : List α} {failure : ε}

theorem not_failsFirst_nil : ¬ FailsFirst check [] failure := by
  rintro ⟨before, item, after, hitems, -, -⟩
  cases before <;> cases hitems

theorem failsFirst_cons {item : α} :
    FailsFirst check (item :: items) failure ↔
      check item = .error failure ∨ (∃ b, check item = .ok b) ∧ FailsFirst check items failure := by
  constructor
  · rintro ⟨before, failing, after, hitems, hbefore, hfailing⟩
    cases before with
    | nil =>
      cases hitems
      exact .inl hfailing
    | cons first before =>
      cases hitems
      obtain ⟨hfirst, hbefore⟩ := List.forall_mem_cons.1 hbefore
      exact .inr ⟨hfirst, before, failing, after, rfl, hbefore, hfailing⟩
  · rintro (hitem | ⟨hitem, before, failing, after, rfl, hbefore, hfailing⟩)
    · exact ⟨[], item, items, rfl, fun _ hmem => absurd hmem List.not_mem_nil, hitem⟩
    · exact ⟨item :: before, failing, after, rfl, List.forall_mem_cons.2 ⟨hitem, hbefore⟩, hfailing⟩

/-- A list fails as its first failing item does. -/
theorem mapM_eq_error_iff : items.mapM check = .error failure ↔ FailsFirst check items failure := by
  induction items with
  | nil => exact iff_of_false (fun h => by cases h) not_failsFirst_nil
  | cons item items ih =>
    rw [List.mapM_cons, Except.bind_eq_error_iff, failsFirst_cons, ← ih]
    refine or_congr_right ?_
    rw [← exists_and_right]
    refine exists_congr fun b => and_congr_right fun _ => ?_
    rw [Except.bind_eq_error_iff]
    exact or_iff_left fun ⟨_, _, h⟩ => by cases h

/-- A check succeeds on a list when it does on every item. -/
theorem exists_mapM_eq_ok_iff :
    (∃ found, items.mapM check = .ok found) ↔ ∀ item ∈ items, ∃ b, check item = .ok b := by
  induction items with
  | nil => exact iff_of_true ⟨[], rfl⟩ fun item hitem => absurd hitem List.not_mem_nil
  | cons item items ih =>
    rw [List.forall_mem_cons, ← ih]
    simp only [List.mapM_cons, Except.bind_eq_ok_iff]
    constructor
    · rintro ⟨found, b, hb, later, hlater, -⟩
      exact ⟨⟨b, hb⟩, later, hlater⟩
    · rintro ⟨⟨b, hb⟩, later, hlater⟩
      exact ⟨b :: later, b, hb, later, hlater, rfl⟩

/-- What comes of a list comes of its items one by one. -/
theorem mapM_eq_ok_iff {found : List β} :
    items.mapM check = .ok found ↔
      List.Forall₂ (fun item b => check item = .ok b) items found := by
  induction items generalizing found with
  | nil =>
    rw [List.forall₂_nil_left_iff]
    exact ⟨fun h => by cases h; rfl, fun h => by rw [h]; rfl⟩
  | cons item items ih =>
    rw [List.mapM_cons, List.forall₂_cons_left_iff]
    simp only [Except.bind_eq_ok_iff, ih]
    constructor
    · rintro ⟨b, hb, later, hlater, h⟩
      cases h
      exact ⟨b, later, hb, hlater, rfl⟩
    · rintro ⟨b, later, hb, hlater, rfl⟩
      exact ⟨b, hb, later, hlater, rfl⟩

/-- What is done to each result is done to all of them. -/
theorem mapM_map_eq {γ : Type} (check : α → Except ε β) (f : β → γ) (items : List α) :
    items.mapM (fun item => (check item).map f) = (items.mapM check).map (List.map f) := by
  induction items with
  | nil => rfl
  | cons item items ih =>
    rw [List.mapM_cons, List.mapM_cons, ih]
    cases check item with
    | error failure => rfl
    | ok b => cases items.mapM check <;> rfl

/-- If another check succeeds where this one does, and alike, then it succeeds on the list. -/
theorem mapM_eq_ok_of_forall {other : α → Except ε β} {found : List β}
    (hother : ∀ item ∈ items, ∀ b, check item = .ok b → other item = .ok b)
    (h : items.mapM check = .ok found) : items.mapM other = .ok found := by
  induction items generalizing found with
  | nil => exact h
  | cons item items ih =>
    obtain ⟨hitem, hitems⟩ := List.forall_mem_cons.1 hother
    rw [List.mapM_cons] at h ⊢
    obtain ⟨b, hb, h⟩ := Except.bind_eq_ok_iff.1 h
    obtain ⟨later, hlater, h⟩ := Except.bind_eq_ok_iff.1 h
    rw [hitem b hb, ih hitems hlater]
    exact h

/-- Two checks that come to the same on every item come to the same on the list. -/
theorem mapM_congr_of_mem {other : α → Except ε β}
    (h : ∀ item ∈ items, other item = check item) : items.mapM other = items.mapM check := by
  induction items with
  | nil => rfl
  | cons item items ih =>
    obtain ⟨hitem, hitems⟩ := List.forall_mem_cons.1 h
    rw [List.mapM_cons, List.mapM_cons, hitem, ih hitems]

/-- What is related to a list item by item is related to each item. -/
theorem exists_of_forall₂ {r : α → β → Prop} {found : List β} (h : List.Forall₂ r items found)
    {item : α} (hitem : item ∈ items) : ∃ b ∈ found, r item b := by
  induction h with
  | nil => cases hitem
  | @cons first b items found hfirst _ ih =>
    rcases List.mem_cons.1 hitem with rfl | hitem
    · exact ⟨b, List.mem_cons_self .., hfirst⟩
    · obtain ⟨later, hlater, hrelated⟩ := ih hitem
      exact ⟨later, List.mem_cons_of_mem _ hlater, hrelated⟩

/-- What comes of a list comes of its items. -/
theorem exists_of_mem_mapM {found : List β} {b : β} (h : items.mapM check = .ok found)
    (hb : b ∈ found) : ∃ item ∈ items, check item = .ok b :=
  exists_of_forall₂ (mapM_eq_ok_iff.1 h).flip hb

variable {κ : Type} [LT κ] [Std.Irrefl (α := κ) (· < ·)] [Trans (α := κ) (· < ·) (· < ·) (· < ·)]
  {key : α → κ}

/-- In an ascending list, the first item that fails is the one with the least key. -/
theorem failsFirst_iff_of_ascending (h : Ascending key items) :
    FailsFirst check items failure ↔
      ∃ item ∈ items, check item = .error failure ∧
        ∀ other ∈ items, key other < key item → ∃ b, check other = .ok b := by
  constructor
  · rintro ⟨before, item, after, rfl, hbefore, hitem⟩
    refine ⟨item, List.mem_append_right _ (List.mem_cons_self ..), hitem, ?_⟩
    intro other hother hlt
    obtain ⟨-, hafter, -⟩ := List.pairwise_append.1 h
    rcases List.mem_append.1 hother with hmem | hmem
    · exact hbefore other hmem
    · rcases List.mem_cons.1 hmem with rfl | hmem
      · exact absurd hlt (Std.Irrefl.irrefl _)
      · have hgt : key item < key other := List.rel_of_pairwise_cons hafter hmem
        exact absurd (Trans.trans hlt hgt) (Std.Irrefl.irrefl _)
  · rintro ⟨item, hmem, hitem, hearlier⟩
    obtain ⟨before, after, rfl⟩ := List.append_of_mem hmem
    refine ⟨before, item, after, rfl, ?_, hitem⟩
    intro other hother
    obtain ⟨-, -, hlt⟩ := List.pairwise_append.1 h
    exact hearlier other (List.mem_append_left _ hother)
      (hlt other hother item (List.mem_cons_self ..))

end FailsFirst

end DoxTriage
