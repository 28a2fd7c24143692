import DoxTriage.Proofs.Ascending
import DoxTriage.Warning.Ledger
import Mathlib.Data.Finset.Card

/-!
# The records of a ledger, from the warnings alone

A ledger sorts and merges. What it shows can be said without either: there is one record for each
key that some warning has, and it has the contexts of exactly the warnings with that key.
`Record.Collects` is this reading, and a ledger shows the records that satisfy it. As a set of
contexts is kept as one ascending list, the reading leaves nothing open: there is one such record
for each key.

## Main definitions

* `Record.Collects`: a record is what several warnings come to at its key.

## Main results

* `Ledger.mem_records_iff`: the records of a ledger are those that collect its warnings.
* `Record.existsUnique_collects`: each key has one.
* `Ledger.unique_ofWarnings`: the ledger counts the different keys.
-/

namespace DoxTriage

namespace Record

variable {marker : Text} {warnings : List Warning}

/-- The record has the key of some of the warnings, and the set of their contexts. -/
structure Collects (marker : Text) (warnings : List Warning) (record : Record) : Prop where
  key_mem : record.toKey ∈ warnings.map (Warning.key marker)
  ascending_contexts : Ascending id record.contexts
  mem_contexts : ∀ context, context ∈ record.contexts ↔
    ∃ warning ∈ warnings, warning.key marker = record.toKey ∧ context ∈ warning.context

theorem ext {record other : Record} (hkey : record.toKey = other.toKey)
    (hcontexts : record.contexts = other.contexts) : record = other := by
  cases record
  cases other
  cases hkey
  cases hcontexts
  rfl

/-- Two records that collect the same warnings at one key are one. -/
theorem Collects.eq_of_toKey_eq {record other : Record} (h : record.Collects marker warnings)
    (hother : other.Collects marker warnings) (hkey : record.toKey = other.toKey) :
    record = other := by
  refine ext hkey (h.ascending_contexts.eq_of_mem_iff hother.ascending_contexts fun context => ?_)
  rw [h.mem_contexts, hother.mem_contexts, hkey]

/-- What a record collects depends on which warnings there are, and on nothing else. -/
theorem Collects.congr {others : List Warning} {record : Record}
    (h : record.Collects marker warnings)
    (hmem : ∀ warning, warning ∈ warnings ↔ warning ∈ others) : record.Collects marker others := by
  refine ⟨?_, h.ascending_contexts, fun context => ?_⟩
  · obtain ⟨warning, hwarning, hkey⟩ := List.mem_map.1 h.key_mem
    exact List.mem_map.2 ⟨warning, (hmem warning).1 hwarning, hkey⟩
  · simp only [h.mem_contexts, hmem]

theorem mem_contexts_takeIn (record other : Record) (context : Text) :
    context ∈ (record.takeIn other).contexts ↔
      context ∈ record.contexts ∨ context ∈ other.contexts :=
  Contexts.mem_union

theorem ascending_contexts_takeIn (record other : Record) :
    Ascending id (record.takeIn other).contexts :=
  Contexts.ascending_ofList _

end Record

namespace Ledger

variable {marker : Text} {warnings : List Warning}

/-- Occurrences that are in order already are not sorted again. -/
theorem records_of_pairwise (ledger : Ledger)
    (h : ledger.occurrences.Pairwise fun a b => notAfter Record.toKey a b = true) :
    ledger.records = ledger.occurrences.foldr (gather Record.toKey Record.takeIn) [] := by
  rw [records, collate_of_pairwise h]

theorem mem_occurrences_ofWarnings {record : Record} :
    record ∈ (ofWarnings marker warnings).occurrences ↔
      ∃ warning ∈ warnings, Record.ofWarning marker warning = record := by
  rw [ofWarnings, occurrences_addAll, List.append_nil, List.mem_reverse, List.mem_map]

theorem mem_keys_ofWarnings {key : Key} :
    key ∈ (ofWarnings marker warnings).records.map Record.toKey ↔
      key ∈ warnings.map (Warning.key marker) := by
  have hnone : ({} : Ledger).records = [] := by simp [records, collate]
  rw [ofWarnings, mem_keys_addAll, hnone, List.map_nil]
  exact or_iff_left List.not_mem_nil

theorem collects_of_mem_records {record : Record}
    (h : record ∈ (ofWarnings marker warnings).records) : record.Collects marker warnings := by
  refine ⟨mem_keys_ofWarnings.1 (List.mem_map_of_mem h), ?_, ?_⟩
  · refine forall_mem_collate (P := fun record => Ascending id record.contexts)
      (fun a b _ _ => Record.ascending_contexts_takeIn a b) (fun occurrence hmem => ?_) record h
    obtain ⟨warning, -, rfl⟩ := mem_occurrences_ofWarnings.1 hmem
    exact Contexts.ascending_ofList _
  · intro context
    rw [holds_of_mem_collate (fun record => context ∈ record.contexts) Record.toKey_takeIn
      (fun a b => Record.mem_contexts_takeIn a b context) h]
    constructor
    · rintro ⟨occurrence, hmem, hkey, hcontext⟩
      obtain ⟨warning, hwarning, rfl⟩ := mem_occurrences_ofWarnings.1 hmem
      exact ⟨warning, hwarning, hkey, Contexts.mem_ofList.1 hcontext⟩
    · rintro ⟨warning, hwarning, hkey, hcontext⟩
      exact ⟨_, mem_occurrences_ofWarnings.2 ⟨warning, hwarning, rfl⟩, hkey,
        Contexts.mem_ofList.2 hcontext⟩

/-- **The records of a ledger** are those that collect its warnings. -/
theorem mem_records_iff {record : Record} :
    record ∈ (ofWarnings marker warnings).records ↔ record.Collects marker warnings := by
  constructor
  · intro h
    exact collects_of_mem_records h
  · intro h
    obtain ⟨shown, hshown, hkey⟩ := List.mem_map.1 (mem_keys_ofWarnings.2 h.key_mem)
    rw [← (collects_of_mem_records hshown).eq_of_toKey_eq h hkey]
    exact hshown

theorem total_ofWarnings : (ofWarnings marker warnings).total = warnings.length := by
  rw [ofWarnings, total_addAll]
  exact Nat.zero_add _

/-- The ledger counts the different keys. -/
theorem unique_ofWarnings :
    (ofWarnings marker warnings).unique = (warnings.map (Warning.key marker)).toFinset.card := by
  have hnodup := (ascending_records (ofWarnings marker warnings)).nodup_keys
  have hsame : (warnings.map (Warning.key marker)).toFinset =
      ((ofWarnings marker warnings).records.map Record.toKey).toFinset := by
    ext key
    rw [List.mem_toFinset, List.mem_toFinset, mem_keys_ofWarnings]
  rw [hsame, List.toFinset_card_of_nodup hnodup, List.length_map]
  rfl

theorem unique_le_total (marker : Text) (warnings : List Warning) :
    (ofWarnings marker warnings).unique ≤ (ofWarnings marker warnings).total := by
  rw [unique_ofWarnings, total_ofWarnings]
  have hcard := List.toFinset_card_le (warnings.map (Warning.key marker))
  rwa [List.length_map] at hcard

end Ledger

/-- Each key of some warnings has one record that collects them. -/
theorem Record.existsUnique_collects {marker : Text} {warnings : List Warning} {key : Key}
    (h : key ∈ warnings.map (Warning.key marker)) :
    ∃! record : Record, record.toKey = key ∧ record.Collects marker warnings := by
  obtain ⟨record, hrecord, hkey⟩ := List.mem_map.1 (Ledger.mem_keys_ofWarnings.2 h)
  have hcollects := Ledger.collects_of_mem_records hrecord
  refine ⟨record, ⟨hkey, hcollects⟩, ?_⟩
  intro other hother
  exact hother.2.eq_of_toKey_eq hcollects (hother.1.trans hkey.symm)

end DoxTriage
