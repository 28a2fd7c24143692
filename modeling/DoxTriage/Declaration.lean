import DoxTriage.Halving
import DoxTriage.Text.Basic

/-!
# Declarations

A declaration is where something documented is declared, by its line, together with its parameter
list as it is written there. The declarations of a source file that one document knows are kept in
ascending order, so that the question *which one comes next after a line* is answered by halving.

Overloads may share a line. The order goes by the parameter list then, which makes the answer to
the question one declaration and not one of several.

## Main definitions

* `Declaration`: a line and a parameter list.
* `Declaration.sort`: the declarations of a file in ascending order.
* `Declaration.nearestAfter?`: the first one after a line, found by halving.

## Main results

* `Declaration.sort_perm`, `Declaration.pairwise_sort`: sorting keeps all and gives the order.
-/

namespace DoxTriage

/-- A declaration: its line and its parameter list as written. -/
structure Declaration where
  line : Nat
  parameters : Text
  deriving DecidableEq, Repr

namespace Declaration

/-- By line, and by parameter list on one line. -/
def before (a b : Declaration) : Bool :=
  a.line < b.line || (a.line = b.line && ! decide (b.parameters < a.parameters))

theorem before_iff {a b : Declaration} :
    a.before b = true ↔ a.line < b.line ∨ a.line = b.line ∧ ¬ b.parameters < a.parameters := by
  simp [before]

theorem before_trans {a b c : Declaration} (hab : a.before b = true) (hbc : b.before c = true) :
    a.before c = true := by
  rw [before_iff] at *
  rcases hab with hab | ⟨hab, hp⟩ <;> rcases hbc with hbc | ⟨hbc, hq⟩
  · exact .inl (by omega)
  · exact .inl (by omega)
  · exact .inl (by omega)
  · exact .inr ⟨by omega, List.not_lt.2 (List.le_trans (List.not_lt.1 hp) (List.not_lt.1 hq))⟩

theorem before_total (a b : Declaration) : (a.before b || b.before a) = true := by
  rw [Bool.or_eq_true, before_iff, before_iff]
  rcases Nat.lt_trichotomy a.line b.line with h | h | h
  · exact .inl (.inl h)
  · rcases List.le_total a.parameters b.parameters with hp | hp
    · exact .inl (.inr ⟨h, List.not_lt.2 hp⟩)
    · exact .inr (.inr ⟨h.symm, List.not_lt.2 hp⟩)
  · exact .inr (.inl h)

/-- The declarations in ascending order; repetitions stay. -/
def sort (found : List Declaration) : List Declaration :=
  found.mergeSort before

theorem sort_perm (found : List Declaration) : (sort found).Perm found :=
  List.mergeSort_perm found before

theorem pairwise_sort (found : List Declaration) :
    (sort found).Pairwise (fun a b => a.before b = true) :=
  List.pairwise_mergeSort (fun a b c => before_trans (a := a) (b := b) (c := c)) before_total found

/-- The first of several sorted declarations whose line is greater than a given line. -/
def nearestAfter? (line : Nat) (sorted : Array Declaration) : Option Declaration :=
  sorted[firstFailure (fun i => sorted[i]?.any (·.line ≤ line)) 0 sorted.size]?

end Declaration

end DoxTriage
