import DoxTriage.Proofs.Rule.Retain
import DoxTriage.Proofs.Warning.Ledger

/-!
# Every key is judged on its own

The records of several warnings are judged together. They stand in one list, they share an index
that learns something from each of them, and each has taken many warnings in. None of this reaches
the verdict on a record. On an unchanged disk a verdict is settled, and a rule looks at the key of a
record and not at its contexts. So it is the *key* that is kept or dropped, and what is kept of some
warnings are the keys among theirs that pass (`Rule.mem_keys_sift_iff`).

Laws on several lists of warnings then follow from the keys that the lists have. Two lists in a row
have the keys of both, so the kept records merge. A list that grows loses no key, whether it grows
by warnings or by lines of context, so no record that was kept goes away.

## Main definitions

* `Rule.sift`: what rules leave of the records of some warnings.
* `Warning.Grows`: a warning with more context.

## Main results

* `Rule.exists_sift_iff`, `Rule.mem_sift_iff`: sifting in terms of keys.
* `Rule.sift_append`: what is left of two lists in a row.
-/

namespace DoxTriage

/-! ### Warnings that grow -/

/-- The other warning has the same key, and all of the context if not more. -/
structure Warning.Grows (marker : Text) (warning other : Warning) : Prop where
  key_eq : other.key marker = warning.key marker
  context_subset : ∀ context ∈ warning.context, context ∈ other.context

theorem Warning.Grows.refl (marker : Text) (warning : Warning) : warning.Grows marker warning :=
  ⟨rfl, fun _ h => h⟩

/-- A warning grows by the lines that are put after its message. -/
theorem Warning.grows_of_lines (marker : Text) (warning : Warning) (lines : Text) :
    warning.Grows marker { warning with message := warning.message ++ '\n' :: lines } := by
  obtain ⟨first, others, hpieces⟩ :=
    List.exists_cons_of_ne_nil (Text.split_ne_nil '\n' warning.message)
  have hmore : Text.pieces (warning.message ++ '\n' :: lines) =
      first :: (others ++ Text.pieces lines) := by
    rw [Text.pieces, Text.split_append_separator, hpieces, List.cons_append]
  constructor
  · simp only [key, headline, hmore, hpieces, List.headD_cons]
  · intro context hcontext
    simp only [Warning.context, hpieces, List.tail_cons] at hcontext
    simp only [Warning.context, hmore, List.tail_cons, List.map_append, List.filter_append]
    exact List.mem_append_left _ hcontext

namespace Rule

/-- What several rules leave of the records of some warnings, with a new index. -/
def sift (disk : Disk) (documents : ClassDocuments) (marker : Text) (rules : List Rule)
    (warnings : List Warning) : Except Failure (List Record) :=
  (retain disk rules (Ledger.ofWarnings marker warnings).records
    { documents := documents, marker := marker }).1

section Sift

variable {disk : Disk} {documents : ClassDocuments} {marker : Text} {rules : List Rule}
  {warnings others : List Warning} {kept : List Record}

/-- Sifting succeeds when each key has a verdict. -/
theorem exists_sift_iff :
    (∃ kept, sift disk documents marker rules warnings = .ok kept) ↔
      ∀ key ∈ warnings.map (Warning.key marker), ∃ dropping,
        verdict disk { documents := documents, marker := marker } rules ⟨key, []⟩ =
          .ok dropping := by
  have hok : (∃ kept, sift disk documents marker rules warnings = .ok kept) ↔
      ∀ record ∈ (Ledger.ofWarnings marker warnings).records, ∃ dropping,
        verdict disk { documents := documents, marker := marker } rules record =
          .ok dropping := by
    simp only [sift, fst_retain_eq_ok_iff, exists_and_left, exists_eq, and_true]
  rw [hok]
  simp only [← Ledger.mem_keys_ofWarnings, List.forall_mem_map, verdict_key]

/-- Of the records that collect the warnings, those are left whose key passes. -/
theorem mem_sift_iff (h : sift disk documents marker rules warnings = .ok kept) {record : Record} :
    record ∈ kept ↔ record.Collects marker warnings ∧
      spares disk { documents := documents, marker := marker } rules ⟨record.toKey, []⟩ = true := by
  obtain ⟨-, rfl⟩ := (fst_retain_eq_ok_iff rfl).1 h
  rw [List.mem_filter, Ledger.mem_records_iff, spares_key]

theorem mem_keys_sift_iff (h : sift disk documents marker rules warnings = .ok kept) {key : Key} :
    key ∈ kept.map Record.toKey ↔ key ∈ warnings.map (Warning.key marker) ∧
      spares disk { documents := documents, marker := marker } rules ⟨key, []⟩ = true := by
  constructor
  · intro hkey
    obtain ⟨record, hrecord, rfl⟩ := List.mem_map.1 hkey
    obtain ⟨hcollects, hspared⟩ := (mem_sift_iff h).1 hrecord
    exact ⟨hcollects.key_mem, hspared⟩
  · rintro ⟨hkey, hspared⟩
    obtain ⟨record, ⟨rfl, hcollects⟩, -⟩ := Record.existsUnique_collects hkey
    exact List.mem_map_of_mem ((mem_sift_iff h).2 ⟨hcollects, hspared⟩)

/-- At a key that passes, what is left has the contexts of the warnings with this key. -/
theorem mem_contexts_sift_iff (h : sift disk documents marker rules warnings = .ok kept) {key : Key}
    (hspared : spares disk { documents := documents, marker := marker } rules ⟨key, []⟩ = true)
    {context : Text} :
    (∃ record ∈ kept, record.toKey = key ∧ context ∈ record.contexts) ↔
      ∃ warning ∈ warnings, warning.key marker = key ∧ context ∈ warning.context := by
  constructor
  · rintro ⟨record, hrecord, rfl, hcontext⟩
    exact (((mem_sift_iff h).1 hrecord).1.mem_contexts context).1 hcontext
  · rintro ⟨warning, hwarning, rfl, hcontext⟩
    obtain ⟨record, ⟨hkey, hcollects⟩, -⟩ :=
      Record.existsUnique_collects (List.mem_map_of_mem hwarning)
    refine ⟨record, (mem_sift_iff h).2 ⟨hcollects, hkey ▸ hspared⟩, hkey, ?_⟩
    exact (hcollects.mem_contexts context).2 ⟨warning, hwarning, hkey.symm, hcontext⟩

/-- What is left of some warnings is still left when they grow and others join them, and has all of
the contexts that it had. -/
theorem exists_sift_of_grows {more : List Record}
    (hgrows : ∀ warning ∈ warnings, ∃ other ∈ others, warning.Grows marker other)
    (h : sift disk documents marker rules others = .ok more) :
    ∃ kept, sift disk documents marker rules warnings = .ok kept ∧
      ∀ record ∈ kept, ∃ other ∈ more, other.toKey = record.toKey ∧
        ∀ context ∈ record.contexts, context ∈ other.contexts := by
  have hkeys : ∀ key ∈ warnings.map (Warning.key marker),
      key ∈ others.map (Warning.key marker) := by
    intro key hkey
    obtain ⟨warning, hwarning, rfl⟩ := List.mem_map.1 hkey
    obtain ⟨other, hother, hgrown⟩ := hgrows warning hwarning
    exact hgrown.key_eq ▸ List.mem_map_of_mem hother
  obtain ⟨kept, hkept⟩ := exists_sift_iff.2 fun key hkey =>
    exists_sift_iff.1 ⟨more, h⟩ key (hkeys key hkey)
  refine ⟨kept, hkept, fun record hrecord => ?_⟩
  obtain ⟨hcollects, hspared⟩ := (mem_sift_iff hkept).1 hrecord
  obtain ⟨other, hother, hkey⟩ :=
    List.mem_map.1 ((mem_keys_sift_iff h).2 ⟨hkeys _ hcollects.key_mem, hspared⟩)
  refine ⟨other, hother, hkey, fun context hcontext => ?_⟩
  obtain ⟨warning, hwarning, hwarningKey, hmem⟩ := (hcollects.mem_contexts context).1 hcontext
  obtain ⟨grown, hgrown, hmore⟩ := hgrows warning hwarning
  refine (((mem_sift_iff h).1 hother).1.mem_contexts context).2 ⟨grown, hgrown, ?_, ?_⟩
  · rw [hmore.key_eq, hwarningKey, hkey]
  · exact hmore.context_subset context hmem

/-- **Kept records merge.** If two lists of warnings in a row can be sifted, then so can each of
them. What is left of both has the keys that are left of one or of the other, and at each key the
contexts of the two. So a warning that is kept stays when more warnings come, or more lines of
context. -/
theorem sift_append {both : List Record}
    (h : sift disk documents marker rules (warnings ++ others) = .ok both) :
    (∃ left right, sift disk documents marker rules warnings = .ok left ∧
        sift disk documents marker rules others = .ok right ∧
        (∀ key, key ∈ both.map Record.toKey ↔
          key ∈ left.map Record.toKey ∨ key ∈ right.map Record.toKey) ∧
        ∀ record ∈ both, ∀ context, context ∈ record.contexts ↔
          ∃ part, (part ∈ left ∨ part ∈ right) ∧ part.toKey = record.toKey ∧
            context ∈ part.contexts) ∧
      ∀ fewer : List Warning,
        (∀ warning ∈ fewer, ∃ other ∈ warnings ++ others, warning.Grows marker other) →
          ∃ kept, sift disk documents marker rules fewer = .ok kept ∧
            ∀ record ∈ kept, ∃ other ∈ both, other.toKey = record.toKey ∧
              ∀ context ∈ record.contexts, context ∈ other.contexts := by
  refine ⟨?_, fun fewer hfewer => exists_sift_of_grows hfewer h⟩
  have hverdict := exists_sift_iff.1 ⟨both, h⟩
  rw [List.map_append] at hverdict
  obtain ⟨left, hleft⟩ := exists_sift_iff.2 fun key hkey =>
    hverdict key (List.mem_append_left _ hkey)
  obtain ⟨right, hright⟩ := exists_sift_iff.2 fun key hkey =>
    hverdict key (List.mem_append_right _ hkey)
  refine ⟨left, right, hleft, hright, fun key => ?_, fun record hrecord context => ?_⟩
  · rw [mem_keys_sift_iff h, mem_keys_sift_iff hleft, mem_keys_sift_iff hright, List.map_append,
      List.mem_append, or_and_right]
  · obtain ⟨hcollects, hspared⟩ := (mem_sift_iff h).1 hrecord
    rw [hcollects.mem_contexts]
    simp only [List.mem_append, or_and_right, exists_or]
    exact or_congr (mem_contexts_sift_iff hleft hspared).symm
      (mem_contexts_sift_iff hright hspared).symm

/-- One of two complaints is dropped, as there is a declaration that bears it out. The other one is
in both lists, under two paths and with two contexts. Before the second list comes, and without any
context in its place, it is kept as well. -/
theorem sift_append_of_two_contexts :
    let page : Path := ⟨"d.xml".toList⟩
    let text : Text := "<memberdef><argsstring>(int a)</argsstring>".toList ++
      "<location file='src/f.hpp' line='8'/></memberdef>".toList
    let disk := (⟨fun _ => none, []⟩ : Disk).put page (.file text)
    let documents : ClassDocuments := ⟨[⟨"src/f.hpp".toList, [page]⟩]⟩
    let marker : Text := "src/".toList
    let rules : List Rule := [.argumentNotFound]
    let complaint : Text → Text := fun name => "argument '".toList ++ name ++
      "' of command @param is not found in the argument list of f(int a)".toList
    let bare : Warning := ⟨"src/f.hpp".toList, 3, complaint ['b']⟩
    let warnings : List Warning := [⟨"src/f.hpp".toList, 5, complaint ['a']⟩,
      ⟨"/ci/src/f.hpp".toList, 3, complaint ['b'] ++ "\n  in y.hpp".toList⟩]
    let others : List Warning := [{ bare with message := bare.message ++ "\n  in x.hpp".toList }]
    let key : Key := ⟨"src/f.hpp".toList, 3, complaint ['b']⟩
    sift disk documents marker rules (warnings ++ others) =
        .ok [⟨key, ["in x.hpp".toList, "in y.hpp".toList]⟩] ∧
      (∃ left right, sift disk documents marker rules warnings = .ok left ∧
        sift disk documents marker rules others = .ok right ∧
        ∀ other : Key, other = key ↔
          other ∈ left.map Record.toKey ∨ other ∈ right.map Record.toKey) ∧
      ∃ kept, sift disk documents marker rules (bare :: warnings) = .ok kept ∧
        ∀ record ∈ kept, record.toKey = key := by
  intro page text disk documents marker rules complaint bare warnings others key
  have hoccurrences : (Ledger.ofWarnings marker (warnings ++ others)).occurrences =
      [⟨key, ["in x.hpp".toList]⟩, ⟨key, ["in y.hpp".toList]⟩,
        ⟨⟨"src/f.hpp".toList, 5, complaint ['a']⟩, []⟩] := by decide +kernel
  have hunion : Contexts.union ["in x.hpp".toList] ["in y.hpp".toList] =
      ["in x.hpp".toList, "in y.hpp".toList] := by
    rw [Contexts.union, Contexts.ofList, collate_of_pairwise (by decide +kernel)]
    decide +kernel
  have hrecords : (Ledger.ofWarnings marker (warnings ++ others)).records =
      [⟨key, ["in x.hpp".toList, "in y.hpp".toList]⟩,
        ⟨⟨"src/f.hpp".toList, 5, complaint ['a']⟩, []⟩] := by
    -- the warnings came in against the order of their keys
    rw [Ledger.records_of_pairwise _ (by decide +kernel), hoccurrences, ← hunion]
    rfl
  have hboth : sift disk documents marker rules (warnings ++ others) =
      .ok [⟨key, ["in x.hpp".toList, "in y.hpp".toList]⟩] := by
    rw [sift, hrecords]
    decide +kernel
  obtain ⟨⟨left, right, hleft, hright, hkeys, -⟩, hgrows⟩ := sift_append hboth
  refine ⟨hboth, ⟨left, right, hleft, hright, fun other => ?_⟩, ?_⟩
  · rw [← hkeys, List.map_singleton, List.mem_singleton]
  · have hfewer : ∀ warning ∈ bare :: warnings,
        ∃ other ∈ warnings ++ others, warning.Grows marker other := by
      refine List.forall_mem_cons.2 ⟨?_, fun warning hwarning => ?_⟩
      · exact ⟨_, List.mem_append_right _ (List.mem_singleton.2 rfl), bare.grows_of_lines marker _⟩
      · exact ⟨warning, List.mem_append_left _ hwarning, .refl marker warning⟩
    obtain ⟨kept, hkept, hmore⟩ := hgrows (bare :: warnings) hfewer
    refine ⟨kept, hkept, fun record hrecord => ?_⟩
    obtain ⟨other, hother, hkey, -⟩ := hmore record hrecord
    rw [← hkey, List.mem_singleton.1 hother]

end Sift

end Rule

end DoxTriage
