import DoxTriage.Proofs.FirstFailure
import Mathlib.Data.List.Forall2

/-!
# Results that agree

Two computations on different inputs may come to the same without being equal: their results are
alike in what matters, or both fail, and their failures are alike in what matters. What matters is a
relation on results and one on failures, and the laws do not depend on which. Computations that
agree step by step agree as a whole, be it one step after the other or a loop over lists that are
related item by item.

## Main definitions

* `Except.Agree`: both succeed and the results are related, or both fail and the failures are.

## Main results

* `Except.Agree.bind`, `Except.Agree.foldlM`, `Except.Agree.mapM`: agreement in sequence.
-/

namespace DoxTriage

variable {ε δ α β α' β' : Type}

/-- Both results are successes that are the same in what matters, or both are failures that are
alike. -/
inductive Except.Agree (alike : ε → δ → Prop) (same : α → β → Prop) :
    Except ε α → Except δ β → Prop
  | ok {a : α} {b : β} (h : same a b) : Agree alike same (.ok a) (.ok b)
  | error {failure : ε} {other : δ} (h : alike failure other) :
    Agree alike same (.error failure) (.error other)

namespace Except.Agree

variable {alike : ε → δ → Prop} {same : α → β → Prop} {after : α' → β' → Prop}

/-- A result agrees with itself if it is related to itself. -/
theorem refl {alike : ε → ε → Prop} {same : α → α → Prop}
    (halike : ∀ failure, alike failure failure) (hsame : ∀ a, same a a) (result : Except ε α) :
    Agree alike same result result := by
  cases result with
  | ok a => exact .ok (hsame a)
  | error failure => exact .error (halike failure)

/-- What agrees with a success is the same success. -/
theorem eq_ok {alike : ε → δ → Prop} {a : α} {result : Except δ α}
    (h : Agree alike (· = ·) (.ok a) result) : result = .ok a := by
  cases h with
  | ok h => rw [h]

/-- Agreement in more is agreement in less. -/
theorem mono {alike' : ε → δ → Prop} {same' : α → β → Prop} {result : Except ε α}
    {other : Except δ β} (h : Agree alike same result other)
    (halike : ∀ failure later, alike failure later → alike' failure later)
    (hsame : ∀ a b, same a b → same' a b) : Agree alike' same' result other := by
  cases h with
  | ok h => exact .ok (hsame _ _ h)
  | error h => exact .error (halike _ _ h)

theorem mapError {ε' δ' : Type} {alike' : ε' → δ' → Prop} {result : Except ε α}
    {other : Except δ β} {f : ε → ε'} {g : δ → δ'} (h : Agree alike same result other)
    (hmap : ∀ failure later, alike failure later → alike' (f failure) (g later)) :
    Agree alike' same (result.mapError f) (other.mapError g) := by
  cases h with
  | ok h => exact .ok h
  | error h => exact .error (hmap _ _ h)

theorem bind {result : Except ε α} {other : Except δ β} {next : α → Except ε α'}
    {later : β → Except δ β'} (h : Agree alike same result other)
    (hnext : ∀ a b, same a b → Agree alike after (next a) (later b)) :
    Agree alike after (result >>= next) (other >>= later) := by
  cases h with
  | ok h => exact hnext _ _ h
  | error h => exact .error h

theorem map {result : Except ε α} {other : Except δ β} {f : α → α'} {g : β → β'}
    (h : Agree alike same result other) (hmap : ∀ a b, same a b → after (f a) (g b)) :
    Agree alike after (result.map f) (other.map g) := by
  cases h with
  | ok h => exact .ok (hmap _ _ h)
  | error h => exact .error h

/-- Two loops agree if they begin alike and every two of their steps agree. -/
theorem foldlM {σ τ : Type} {same : σ → τ → Prop} {related : α → β → Prop}
    {step : σ → α → Except ε σ} {other : τ → β → Except δ τ} {items : List α} {others : List β}
    (h : List.Forall₂ related items others)
    (hstep : ∀ s t a b, same s t → related a b → Agree alike same (step s a) (other t b))
    {s : σ} {t : τ} (hst : same s t) :
    Agree alike same (items.foldlM step s) (others.foldlM other t) := by
  induction h generalizing s t with
  | nil => exact .ok hst
  | cons hitem _ ih =>
    rw [List.foldlM_cons, List.foldlM_cons]
    exact (hstep _ _ _ _ hst hitem).bind fun _ _ hnext => ih hnext

/-- Two checks that agree on every item agree on the list. -/
theorem mapM {check : α → Except ε β} {other : α → Except δ β} {items : List α}
    (h : ∀ item ∈ items, Agree alike (· = ·) (check item) (other item)) :
    Agree alike (· = ·) (items.mapM check) (items.mapM other) := by
  induction items with
  | nil => exact .ok rfl
  | cons item items ih =>
    obtain ⟨hitem, hitems⟩ := List.forall_mem_cons.1 h
    rw [List.mapM_cons, List.mapM_cons]
    refine hitem.bind ?_
    rintro found _ rfl
    refine (ih hitems).bind ?_
    rintro later _ rfl
    exact .ok rfl

end Except.Agree

end DoxTriage
