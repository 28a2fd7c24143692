import DoxTriage.Proofs.Warning.Ledger

/-!
# Warnings in any order, and more than once

A ledger is filled by calls, each of which takes in one warning or several in a row. How the
warnings are divided among the calls leaves no trace, so a ledger filled by calls is the ledger of
all their warnings.

What a record collects is said of *some* of the warnings, with no word on where they stand or how
often they come. Records are therefore a function of the set of warnings: an ascending list is
determined by its members, and the members are the same (`records_ofWarnings_congr`). Order and
repetition are two cases of this. Only the count of occurrences notices a repetition, and it does
not notice an order.

## Main definitions

* `Ledger.Call`, `Ledger.ofCalls`: a call, and the ledger after several.
* `Ledger.Merges`: what a ledger shows is a merge of some warnings.

## Main results

* `Ledger.records_ofWarnings_congr`: records depend on the set of warnings.
* `Ledger.merges_of_calls`: the laws of a ledger, over all sequences of calls.
-/

namespace DoxTriage

namespace Ledger

/-! ### Calls -/

/-- A call that fills a ledger: one warning is taken in, or several in a row. -/
inductive Call where
  | add (warning : Warning)
  | addAll (warnings : List Warning)
  deriving DecidableEq, Repr

namespace Call

/-- The warnings that a call takes in. -/
def warnings : Call → List Warning
  | .add warning => [warning]
  | .addAll warnings => warnings

/-- The ledger after a call. -/
def apply (marker : Text) (ledger : Ledger) : Call → Ledger
  | .add warning => ledger.add marker warning
  | .addAll warnings => ledger.addAll marker warnings

theorem apply_eq (marker : Text) (ledger : Ledger) (call : Call) :
    call.apply marker ledger = ledger.addAll marker call.warnings := by
  cases call <;> rfl

end Call

/-- The ledger after several calls, the first of them to an empty ledger. -/
def ofCalls (marker : Text) (calls : List Call) : Ledger :=
  calls.foldl (fun ledger call => call.apply marker ledger) {}

theorem addAll_append (marker : Text) (ledger : Ledger) (warnings others : List Warning) :
    addAll marker ledger (warnings ++ others) =
      addAll marker (addAll marker ledger warnings) others :=
  List.foldl_append

/-- Calls take in their warnings one after the other. -/
theorem ofCalls_eq (marker : Text) (calls : List Call) :
    ofCalls marker calls = ofWarnings marker (calls.flatMap Call.warnings) := by
  -- the ledger that the calls begin with is left open
  suffices h : ∀ ledger : Ledger, calls.foldl (fun ledger call => call.apply marker ledger) ledger =
      addAll marker ledger (calls.flatMap Call.warnings) from h {}
  induction calls with
  | nil => exact fun ledger => rfl
  | cons call calls ih =>
    intro ledger
    rw [List.foldl_cons, ih, Call.apply_eq, List.flatMap_cons, addAll_append]

/-! ### The set of warnings -/

section SetOfWarnings

variable {marker : Text} {warnings others : List Warning}

/-- Records depend on which warnings there are, and on nothing else. -/
theorem records_ofWarnings_congr (h : ∀ warning, warning ∈ warnings ↔ warning ∈ others) :
    (ofWarnings marker warnings).records = (ofWarnings marker others).records := by
  refine (ascending_records _).eq_of_mem_iff (ascending_records _) fun record => ?_
  rw [mem_records_iff, mem_records_iff]
  constructor
  · intro hrecord
    exact hrecord.congr h
  · intro hrecord
    exact hrecord.congr fun warning => (h warning).symm

end SetOfWarnings

/-! ### The laws -/

/-- What a ledger shows is a merge of some warnings: one record for each key that occurs, with the
contexts of all warnings with this key, in the order of the keys; and the counts are those of the
warnings and of the records. -/
structure Merges (marker : Text) (warnings : List Warning) (ledger : Ledger) : Prop where
  ascending : Ascending Record.toKey ledger.records
  existsUnique_record : ∀ key ∈ warnings.map (Warning.key marker),
    ∃! record, record ∈ ledger.records ∧ record.toKey = key
  mem_records_iff : ∀ record, record ∈ ledger.records ↔ record.Collects marker warnings
  total_eq : ledger.total = warnings.length
  unique_eq : ledger.unique = ledger.records.length
  unique_le_total : ledger.unique ≤ ledger.total

theorem merges_ofWarnings (marker : Text) (warnings : List Warning) :
    Merges marker warnings (ofWarnings marker warnings) where
  ascending := ascending_records _
  existsUnique_record := by
    intro key hkey
    obtain ⟨record, ⟨hrecord, hcollects⟩, honly⟩ := Record.existsUnique_collects hkey
    refine ⟨record, ⟨mem_records_iff.2 hcollects, hrecord⟩, ?_⟩
    rintro other ⟨hmem, hother⟩
    exact honly other ⟨hother, mem_records_iff.1 hmem⟩
  mem_records_iff := fun _ => mem_records_iff
  total_eq := total_ofWarnings
  unique_eq := rfl
  unique_le_total := unique_le_total marker warnings

/-- **A ledger is a set merge**, whatever calls have filled it. After every call it shows one record
for each key that has occurred, with the contexts of all its occurrences, in the order of the keys.
The warnings may come in any order, divided among any calls: the ledger shows the same. Calls that
bring nothing but warnings from before change no record; they only add to the total. -/
theorem merges_of_calls (marker : Text) (calls : List Call) :
    (∀ earlier, earlier <+: calls →
        Merges marker (earlier.flatMap Call.warnings) (ofCalls marker earlier)) ∧
      (∀ others : List Call,
        (others.flatMap Call.warnings).Perm (calls.flatMap Call.warnings) →
          (ofCalls marker others).records = (ofCalls marker calls).records ∧
            (ofCalls marker others).total = (ofCalls marker calls).total ∧
            (ofCalls marker others).unique = (ofCalls marker calls).unique) ∧
      ∀ again : List Call,
        (∀ warning ∈ again.flatMap Call.warnings, warning ∈ calls.flatMap Call.warnings) →
          (ofCalls marker (calls ++ again)).records = (ofCalls marker calls).records ∧
            (ofCalls marker (calls ++ again)).unique = (ofCalls marker calls).unique ∧
            (ofCalls marker (calls ++ again)).total =
              (ofCalls marker calls).total + (again.flatMap Call.warnings).length := by
  simp only [ofCalls_eq]
  refine ⟨fun earlier _ => merges_ofWarnings marker _, ?_, ?_⟩
  · intro others hperm
    have hrecords : (ofWarnings marker (others.flatMap Call.warnings)).records =
        (ofWarnings marker (calls.flatMap Call.warnings)).records :=
      records_ofWarnings_congr fun warning => hperm.mem_iff
    refine ⟨hrecords, ?_, congrArg List.length hrecords⟩
    rw [total_ofWarnings, total_ofWarnings, hperm.length_eq]
  · intro again hagain
    have hrecords : (ofWarnings marker ((calls ++ again).flatMap Call.warnings)).records =
        (ofWarnings marker (calls.flatMap Call.warnings)).records := by
      refine records_ofWarnings_congr fun warning => ?_
      rw [List.flatMap_append, List.mem_append]
      exact or_iff_left_of_imp (hagain warning)
    refine ⟨hrecords, congrArg List.length hrecords, ?_⟩
    rw [total_ofWarnings, total_ofWarnings, List.flatMap_append, List.length_append]

/-- Three warnings with two keys, since two paths lead to one source file and a headline ends at the
line feed. They come in another order through other calls, and then two of them come once more. -/
theorem merges_of_calls_again :
    let first : Warning := ⟨"/ci/src/a.hpp".toList, 3, "head\n  y".toList⟩
    let second : Warning := ⟨"src/a.hpp".toList, 3, "head\r\n\n x".toList⟩
    let third : Warning := ⟨"src/a.hpp".toList, 4, "head".toList⟩
    let marker : Text := "src/".toList
    let calls : List Call := [.addAll [third, first], .add second]
    let others : List Call := [.add first, .add second, .addAll [], .addAll [third]]
    let again : List Call := [.add second, .addAll [first]]
    let records : List Record :=
      [⟨⟨"src/a.hpp".toList, 3, "head".toList⟩, ["x".toList, "y".toList]⟩,
        ⟨⟨"src/a.hpp".toList, 4, "head".toList⟩, []⟩]
    (ofCalls marker calls).records = records ∧
      (ofCalls marker others).records = records ∧
      (ofCalls marker (calls ++ again)).records = records ∧
      (ofCalls marker calls).unique = 2 ∧ (ofCalls marker calls).total = 3 ∧
      (ofCalls marker (calls ++ again)).total = 5 := by
  intro first second third marker calls others again records
  have hoccurrences : (ofCalls marker calls).occurrences =
      [⟨⟨"src/a.hpp".toList, 3, "head".toList⟩, ["x".toList]⟩,
        ⟨⟨"src/a.hpp".toList, 3, "head".toList⟩, ["y".toList]⟩,
        ⟨⟨"src/a.hpp".toList, 4, "head".toList⟩, []⟩] := by decide +kernel
  have hunion : Contexts.union ["x".toList] ["y".toList] = ["x".toList, "y".toList] := by
    rw [Contexts.union, Contexts.ofList, collate_of_pairwise (by decide +kernel)]
    decide +kernel
  have hcalls : (ofCalls marker calls).records =
      [⟨⟨"src/a.hpp".toList, 3, "head".toList⟩, Contexts.union ["x".toList] ["y".toList]⟩,
        ⟨⟨"src/a.hpp".toList, 4, "head".toList⟩, []⟩] := by
    rw [Ledger.records_of_pairwise _ (by decide +kernel), hoccurrences]
    rfl
  rw [hunion] at hcalls
  obtain ⟨hmerges, hothers, hagain⟩ := merges_of_calls marker calls
  obtain ⟨hrecords, -, -⟩ := hothers others (by decide +kernel)
  obtain ⟨hsame, -, htotal⟩ := hagain again (by decide +kernel)
  have hall := hmerges calls List.prefix_rfl
  exact ⟨hcalls, hrecords.trans hcalls, hsame.trans hcalls, by rw [hall.unique_eq, hcalls]; rfl,
    hall.total_eq, htotal⟩

end Ledger

end DoxTriage
