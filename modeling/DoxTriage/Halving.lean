/-!
# Search by halving

A property of indices that holds up to some point and fails from there on is found out by looking at
the index in the middle, over and over. The search does not require the property to be of that kind;
it only has a meaning if it is.

## Main definitions

* `firstFailure`: the first index at which a property fails.

## Main results

* `firstFailure_laws`: the property holds before that index and fails from there on.
-/

namespace DoxTriage

/-- The first index at which a property fails, among `count` indices from `low` on; the index after
them if it holds at all of them. -/
def firstFailure (holds : Nat → Bool) (low count : Nat) : Nat :=
  if count = 0 then low
  else
    let half := count / 2
    if holds (low + half) then firstFailure holds (low + half + 1) (count - half - 1)
    else firstFailure holds low half
termination_by count

/-- If the property holds before every index at which it holds, then the search parts the indices
into those where it holds and those where it fails. -/
theorem firstFailure_laws {holds : Nat → Bool} {low count : Nat}
    (h : ∀ i j, i ≤ j → j < low + count → holds j = true → holds i = true) :
    low ≤ firstFailure holds low count ∧ firstFailure holds low count ≤ low + count ∧
      (∀ i, low ≤ i → i < firstFailure holds low count → holds i = true) ∧
      ∀ i, firstFailure holds low count ≤ i → i < low + count → holds i = false := by
  fun_induction firstFailure holds low count with
  | case1 low =>
    exact ⟨Nat.le_refl _, Nat.le_refl _, fun i _ _ => by omega, fun i _ _ => by omega⟩
  | case2 low count hcount half hhalf ih =>
    have hle : half < count := by omega
    obtain ⟨h1, h2, h3, h4⟩ := ih fun i j hij hj => h i j hij (by omega)
    refine ⟨by omega, by omega, fun i hi hlt => ?_, fun i hi hlt => h4 i hi (by omega)⟩
    by_cases hmid : low + half + 1 ≤ i
    · exact h3 i hmid hlt
    · exact h i (low + half) (by omega) (by omega) hhalf
  | case3 low count hcount half hhalf ih =>
    have hle : half < count := by omega
    obtain ⟨h1, h2, h3, h4⟩ := ih fun i j hij hj => h i j hij (by omega)
    refine ⟨h1, by omega, h3, fun i hi hlt => ?_⟩
    by_cases hmid : i < low + half
    · exact h4 i hi hmid
    · cases hc : holds i with
      | false => rfl
      | true => exact absurd (h (low + half) i (by omega) hlt hc) hhalf

end DoxTriage
