import DoxTriage.Warning.Ledger

/-!
# Summary and exit status

The summary counts what the triage has done: occurrences read, different warnings among them, those
left, and those left out. The exit status tells a build whether anything is left.

## Main definitions

* `Summary`, `Summary.of`: the counts.
* `Summary.exitStatus`: the status of a triage that did not fail.

## Main results

* `Summary.exitStatus_eq_zero`: the status is zero if and only if nothing is left.
-/

namespace DoxTriage

/-- What a triage has done, in numbers. -/
structure Summary where
  kept : Nat
  total : Nat
  unique : Nat
  ignored : Nat
  deriving DecidableEq, Repr

namespace Summary

/-- The summary of a number of occurrences, of different warnings among them, and of those left. -/
def of (total unique kept : Nat) : Summary :=
  ⟨kept, total, unique, unique - kept⟩

/-- The exit status when the triage itself failed. -/
def failureStatus : Nat := 2

/-- Zero if nothing is left, and one if something is. -/
def exitStatus (summary : Summary) : Nat :=
  if summary.kept = 0 then 0 else 1

theorem exitStatus_eq_zero {summary : Summary} : summary.exitStatus = 0 ↔ summary.kept = 0 := by
  rw [exitStatus]
  split <;> simp_all

theorem exitStatus_lt_failureStatus (summary : Summary) : summary.exitStatus < failureStatus := by
  rw [exitStatus, failureStatus]
  split <;> omega

end Summary

end DoxTriage
