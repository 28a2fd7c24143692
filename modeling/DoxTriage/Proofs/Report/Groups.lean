import DoxTriage.Proofs.Ascending
import DoxTriage.Proofs.Report
import DoxTriage.Proofs.Rule.Retain

/-!
# A report depends on the set of its records

The groups of a report can be told from the records alone, without sorting: one group for each file,
the files ascending, and in a group all records of the file, ascending by line and headline. That
leaves nothing open. An ascending list is determined by its members, which settles the files first
and then, if no key comes twice, the records of each file. So two lists of the same records have the
same groups and the same report.

Keys have the order of files, lines and headlines too. A list in the order of its keys is therefore
shown as it is.

## Main definitions

* `Report.Before`: a record comes before another one of the same file.
* `Report.Grouping`: the groups of some records.

## Main results

* `Report.existsUnique_grouping`: records with different keys have one grouping.
* `Report.render_canonical`: a report shows the groups of its records, whatever their order.
-/

namespace DoxTriage

namespace Report

/-! ### Groups -/

/-- By line, and by the headline as it was read on one line. -/
def Before (a b : Record) : Prop :=
  a.line < b.line ∨ a.line = b.line ∧ a.headline < b.headline

/-- Groups of records, each with the file it is about. -/
structure Grouping (records : List Record) (groups : List (Text × List Record)) : Prop where
  ascending_files : (groups.map Prod.fst).Pairwise (· < ·)
  mem_files : ∀ file, file ∈ groups.map Prod.fst ↔ ∃ record ∈ records, record.file = file
  ascending_records : ∀ group ∈ groups, group.2.Pairwise Before
  mem_records : ∀ group ∈ groups, ∀ record,
    record ∈ group.2 ↔ record ∈ records ∧ record.file = group.1

/-- A group as it is written: the file, and a line for each record. -/
def groupText (separator : Text) (group : Text × List Record) : Text :=
  group.1 ++ ":\n".toList ++ group.2.flatMap (recordLine separator)

theorem before_iff {a b : Record} (h : a.file = b.file) : Before a b ↔ a.toKey < b.toKey := by
  rw [Key.lt_iff, h]
  constructor
  · exact fun hbefore => .inr ⟨rfl, hbefore⟩
  · rintro (hlt | ⟨-, hbefore⟩)
    · exact absurd hlt (List.lt_irrefl _)
    · exact hbefore

variable {records others : List Record} {groups : List (Text × List Record)}

/-- A grouping depends on which records there are, and on nothing else. -/
theorem Grouping.congr (h : Grouping records groups)
    (hmem : ∀ record, record ∈ records ↔ record ∈ others) : Grouping others groups := by
  refine ⟨h.ascending_files, fun file => ?_, h.ascending_records, fun group hgroup record => ?_⟩
  · simp only [h.mem_files, hmem]
  · rw [h.mem_records group hgroup, hmem]

/-- Groups with the same file have the same records. -/
theorem Grouping.eq_of_fst_eq {groups' : List (Text × List Record)} (h : Grouping records groups)
    (h' : Grouping records groups') {group group' : Text × List Record} (hgroup : group ∈ groups)
    (hgroup' : group' ∈ groups') (hfile : group.1 = group'.1) : group = group' := by
  have hascending : ∀ {groups : List (Text × List Record)}, Grouping records groups →
      ∀ group ∈ groups, Ascending Record.toKey group.2 := by
    intro groups h group hgroup
    refine (h.ascending_records group hgroup).imp_of_mem fun {a b} ha hb hbefore => ?_
    have hsame : a.file = b.file :=
      ((h.mem_records group hgroup a).1 ha).2.trans ((h.mem_records group hgroup b).1 hb).2.symm
    exact (before_iff hsame).1 hbefore
  refine Prod.ext hfile ?_
  refine (hascending h group hgroup).eq_of_mem_iff (hascending h' group' hgroup') fun record => ?_
  rw [h.mem_records group hgroup, h'.mem_records group' hgroup', hfile]

/-- Records have one grouping at most. -/
theorem Grouping.unique {groups' : List (Text × List Record)} (h : Grouping records groups)
    (h' : Grouping records groups') : groups = groups' := by
  have hascending : ∀ {groups : List (Text × List Record)}, Grouping records groups →
      Ascending Prod.fst groups := fun h => List.pairwise_map.1 h.ascending_files
  have hsubset : ∀ {groups groups' : List (Text × List Record)}, Grouping records groups →
      Grouping records groups' → ∀ group ∈ groups, group ∈ groups' := by
    intro groups groups' h h' group hgroup
    have hfile := (h'.mem_files group.1).2 ((h.mem_files group.1).1 (List.mem_map_of_mem hgroup))
    obtain ⟨group', hgroup', heq⟩ := List.mem_map.1 hfile
    rwa [h.eq_of_fst_eq h' hgroup hgroup' heq.symm]
  exact (hascending h).eq_of_mem_iff (hascending h') fun group =>
    ⟨hsubset h h' group, hsubset h' h group⟩

/-! ### Sections are groups -/

/-- The sections of records, each with its file. -/
def groupsOf (records : List Record) : List (Text × List Record) :=
  (sections records).map fun part => (sectionFile part, part)

theorem map_fst_groupsOf (records : List Record) :
    (groupsOf records).map Prod.fst = (sections records).map sectionFile := by
  rw [groupsOf, List.map_map]
  rfl

/-- With different keys, the records of all sections together are ascending. -/
theorem ascending_flatten_sections (h : (records.map Record.toKey).Nodup) :
    Ascending Record.toKey (sections records).flatten := by
  have hkeys : ((sections records).flatten.map Record.toKey).Nodup :=
    (((flatten_sections_perm records).map _).nodup_iff).2 h
  have hsorted : (sections records).flatten.Pairwise fun a b =>
      notAfter Record.toKey a b = true := by
    rw [sections, List.flatten_splitBy]
    exact pairwise_mergeSort_notAfter records
  rw [List.nodup_iff_pairwise_ne, List.pairwise_map] at hkeys
  refine (hsorted.and hkeys).imp fun {a b} hboth => ?_
  by_contra hlt
  exact hboth.2 (Key.eq_of_not_lt hlt (notAfter_iff.1 hboth.1))

theorem grouping_groupsOf (h : (records.map Record.toKey).Nodup) :
    Grouping records (groupsOf records) := by
  have hfiles := pairwise_files_sections records
  have hmem : ∀ {part : List Record} {record : Record}, part ∈ sections records →
      record ∈ part → record ∈ records ∧ record.file = sectionFile part := by
    intro part record hpart hrecord
    exact ⟨(flatten_sections_perm records).subset (List.mem_flatten.2 ⟨part, hpart, hrecord⟩),
      file_of_mem_sections hpart record hrecord⟩
  refine ⟨?_, fun file => ?_, fun group hgroup => ?_, fun group hgroup record => ?_⟩
  · rw [map_fst_groupsOf]
    exact hfiles
  · rw [map_fst_groupsOf, (files_sections_perm records).mem_iff, List.mem_dedup, List.mem_map]
  · obtain ⟨part, hpart, rfl⟩ := List.mem_map.1 hgroup
    have hpartly := (List.pairwise_flatten.1 (ascending_flatten_sections h)).1 part hpart
    refine hpartly.imp_of_mem fun {a b} ha hb hlt => (before_iff ?_).2 hlt
    rw [(hmem hpart ha).2, (hmem hpart hb).2]
  · obtain ⟨part, hpart, rfl⟩ := List.mem_map.1 hgroup
    refine ⟨hmem hpart, fun ⟨hrecord, hfile⟩ => ?_⟩
    obtain ⟨other, hother, hin⟩ :=
      List.mem_flatten.1 ((flatten_sections_perm records).symm.subset hrecord)
    -- different sections are about different files
    have hsame : sectionFile other = sectionFile part :=
      (file_of_mem_sections hother record hin).symm.trans hfile
    obtain rfl : other = part :=
      List.inj_on_of_nodup_map (nodup_files_sections records) hother hpart hsame
    exact hin

/-- Records with different keys have one grouping. -/
theorem existsUnique_grouping (h : (records.map Record.toKey).Nodup) :
    ∃! groups, Grouping records groups :=
  ⟨_, grouping_groupsOf h, fun _ hgroups => hgroups.unique (grouping_groupsOf h)⟩

theorem flatMap_snd_groupsOf (records : List Record) :
    (groupsOf records).flatMap Prod.snd = (sections records).flatten := by
  rw [groupsOf, List.flatMap_map]
  exact List.flatMap_id

theorem render_eq_groupsOf (hne : records ≠ []) (summary : Summary) (separator : Text) :
    render records summary separator =
      heading summary ++ (groupsOf records).flatMap (groupText separator) := by
  rw [render, if_neg hne, groupsOf, List.flatMap_map]
  congr 1
  refine List.flatMap_congr fun part hpart => ?_
  cases part with
  | nil => exact absurd rfl (List.ne_nil_of_mem_splitBy hpart)
  | cons first others => rfl

/-! ### Reports -/

/-- **A report depends on the set of its records.** It is the heading and the groups of the records,
one after the other, and records with different keys have one grouping; so the same records in
another order make the same report. The records of a list in the order of its keys come out as they
are in the list, and what rules retain of a ledger is such a list. -/
theorem render_canonical {records : List Record} (hne : records ≠ [])
    (hkeys : (records.map Record.toKey).Nodup) (summary : Summary) (separator : Text) :
    (∃! groups, Grouping records groups) ∧
      (∀ groups, Grouping records groups →
        render records summary separator =
            heading summary ++ groups.flatMap (groupText separator) ∧
          (groups.flatMap Prod.snd).Perm records ∧
          (Ascending Record.toKey records → groups.flatMap Prod.snd = records)) ∧
      (∀ others : List Record, others.Perm records →
        render others summary separator = render records summary separator) ∧
      ∀ (disk : Disk) (rules : List Rule) (ledger : Ledger) (index : SymbolIndex)
        (kept : List Record), (Rule.retain disk rules ledger.records index).1 = .ok kept →
          Ascending Record.toKey kept := by
  have hgrouping := grouping_groupsOf hkeys
  refine ⟨existsUnique_grouping hkeys, fun groups hgroups => ?_, fun others hperm => ?_, ?_⟩
  · rw [hgroups.unique hgrouping, flatMap_snd_groupsOf]
    exact ⟨render_eq_groupsOf hne summary separator, flatten_sections_perm records,
      flatten_sections⟩
  · have hothers : (others.map Record.toKey).Nodup := ((hperm.map _).nodup_iff).2 hkeys
    have hne' : others ≠ [] := fun hnil => hne (List.nil_perm.1 (hnil ▸ hperm))
    have hsame := (grouping_groupsOf hothers).congr fun record => hperm.mem_iff
    rw [render_eq_groupsOf hne, render_eq_groupsOf hne', hsame.unique hgrouping]
  · intro disk rules ledger index kept hkept
    exact (Ledger.ascending_records ledger).sublist (Rule.sublist_of_retain hkept)

/-- Four records out of order. Two of them differ in what the report leaves out of the headline, and
they come in the order of what is left out. -/
theorem render_canonical_of_shuffled :
    let late : Record := ⟨⟨"src/b.hpp".toList, 3, "late".toList⟩, []⟩
    let far : Record := ⟨⟨"src/a.hpp".toList, 20, "g(int)".toList⟩, []⟩
    let second : Record := ⟨⟨"src/a.hpp".toList, 4, "f(int b)".toList⟩, ["x".toList, "y".toList]⟩
    let first : Record := ⟨⟨"src/a.hpp".toList, 4, "f(int a)".toList⟩, []⟩
    let summary : Summary := ⟨4, 6, 5, 1⟩
    let records := [late, far, second, first]
    records ≠ [] ∧ (records.map Record.toKey).Nodup ∧
      (∃ groups, Grouping records groups ∧ (groups.flatMap Prod.snd).Perm records) ∧
      render records summary ", ".toList =
        ("The documentation generated 4 unique warnings (total: 6, ignored: 1):\n" ++
          "src/a.hpp:\n  line 4: f()\n  line 4: f(): x, y\n  line 20: g()\n" ++
          "src/b.hpp:\n  line 3: late\n").toList := by
  intro late far second first summary records
  have hne : records ≠ [] := List.cons_ne_nil _ _
  have hkeys : (records.map Record.toKey).Nodup := by decide +kernel
  obtain ⟨⟨groups, hgroups, -⟩, hshown, hperm, -⟩ :=
    render_canonical hne hkeys summary ", ".toList
  refine ⟨hne, hkeys, ⟨groups, hgroups, (hshown groups hgroups).2.1⟩, ?_⟩
  rw [← hperm [first, second, far, late] (List.reverse_perm records), render,
    if_neg (List.cons_ne_nil _ _), sections, List.mergeSort_of_pairwise (by decide +kernel)]
  decide +kernel

end Report

end DoxTriage
