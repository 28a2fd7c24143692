import DoxTriage.Warning.Record

/-!
# The ledger of warnings

The ledger takes warnings in, one occurrence at a time, in whatever order they come. Its records
are what the occurrences are when they are collated: one record per key, in the order of the keys.
It also counts the occurrences, so that a report can say how many times the generator has repeated
itself.

## Main definitions

* `Ledger`: the occurrences taken in.
* `Ledger.add`, `Ledger.ofWarnings`: take warnings in.
* `Ledger.records`, `Ledger.total`, `Ledger.unique`: what the ledger says.

## Main results

* `Ledger.total_addAll`: every occurrence counts.
* `Ledger.mem_keys_addAll`: the keys are those of the warnings.
* `Ledger.ascending_records`: the records are in strictly ascending order of their keys.
-/

namespace DoxTriage

/-- The occurrences taken in, each as a record of its own, the last one first. -/
structure Ledger where
  occurrences : List Record := []
  deriving DecidableEq, Repr

namespace Ledger

/-- One record per key, in the order of the keys. -/
def records (ledger : Ledger) : List Record :=
  collate Record.toKey Record.takeIn ledger.occurrences

/-- The number of occurrences. -/
def total (ledger : Ledger) : Nat :=
  ledger.occurrences.length

/-- The number of different keys. -/
def unique (ledger : Ledger) : Nat :=
  ledger.records.length

/-- Take in one occurrence. The marker says where the name of a source file begins. -/
def add (marker : Text) (ledger : Ledger) (warning : Warning) : Ledger :=
  ⟨Record.ofWarning marker warning :: ledger.occurrences⟩

/-- Take in several occurrences. -/
def addAll (marker : Text) (ledger : Ledger) (warnings : List Warning) : Ledger :=
  warnings.foldl (add marker) ledger

/-- The ledger of several occurrences. -/
def ofWarnings (marker : Text) (warnings : List Warning) : Ledger :=
  addAll marker {} warnings

@[simp] theorem addAll_nil (marker : Text) (ledger : Ledger) : addAll marker ledger [] = ledger :=
  rfl

@[simp] theorem addAll_cons (marker : Text) (ledger : Ledger) (warning : Warning)
    (warnings : List Warning) :
    addAll marker ledger (warning :: warnings) =
      addAll marker (ledger.add marker warning) warnings := rfl

theorem occurrences_addAll (marker : Text) (ledger : Ledger) (warnings : List Warning) :
    (addAll marker ledger warnings).occurrences =
      (warnings.map (Record.ofWarning marker)).reverse ++ ledger.occurrences := by
  induction warnings generalizing ledger with
  | nil => rfl
  | cons warning warnings ih => simp [ih, add]

theorem total_addAll (marker : Text) (ledger : Ledger) (warnings : List Warning) :
    (addAll marker ledger warnings).total = ledger.total + warnings.length := by
  simp only [total, occurrences_addAll, List.length_append, List.length_reverse, List.length_map]
  exact Nat.add_comm _ _

theorem mem_keys {ledger : Ledger} {key : Key} :
    key ∈ ledger.records.map Record.toKey ↔ key ∈ ledger.occurrences.map Record.toKey :=
  mem_map_key_collate Record.toKey_takeIn

theorem mem_keys_addAll {marker : Text} {ledger : Ledger} {warnings : List Warning} {key : Key} :
    key ∈ (addAll marker ledger warnings).records.map Record.toKey ↔
      key ∈ warnings.map (Warning.key marker) ∨ key ∈ ledger.records.map Record.toKey := by
  rw [mem_keys, mem_keys, occurrences_addAll, List.map_append, List.mem_append, List.map_reverse,
    List.mem_reverse, List.map_map]
  rfl

theorem ascending_records (ledger : Ledger) : Ascending Record.toKey ledger.records :=
  ascending_collate Record.toKey_takeIn ledger.occurrences

end Ledger

end DoxTriage
