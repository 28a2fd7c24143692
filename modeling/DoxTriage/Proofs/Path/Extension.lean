import DoxTriage.Path
import DoxTriage.Proofs.Text.Cut

/-!
# Extensions of file names

Whether a file is a source file is seen from its name alone. The name is the last component of the
path, and the extension is what stands behind its last full stop, provided that something stands in
front of it too: a name such as `.cpp` is all stem.

## Main definitions

* `Path.HasExtension`: the extension of a path, without a search.

## Main results

* `Path.extension?_eq_some_iff`: the search finds it.
-/

namespace DoxTriage

namespace Path

/-- The last component of a path is a name that goes on with a full stop and the extension, and no
other full stop follows. -/
def HasExtension (p : Path) (extension : Text) : Prop :=
  ∃ stem, p.components.getLast? = some (.name (stem ++ '.' :: extension)) ∧ stem ≠ [] ∧
    '.' ∉ extension

theorem readStop_eq_some_iff {s extension : Text} :
    readStop s = some extension ↔ s = '.' :: extension := by
  cases s with
  | nil => simp [readStop]
  | cons c s => simp [readStop, and_comm]

/-- The last full stop of a name has no other one behind it. -/
theorem lastCut?_readStop_iff {name stem extension : Text} :
    Text.lastCut? readStop name = some (stem, extension) ↔
      name = stem ++ '.' :: extension ∧ '.' ∉ extension := by
  rw [Text.lastCut?_eq_some_iff]
  constructor
  · rintro ⟨⟨rest, rfl, hread⟩, hlast⟩
    obtain rfl := readStop_eq_some_iff.1 hread
    refine ⟨rfl, fun hmem => ?_⟩
    obtain ⟨before, after, rfl⟩ := List.append_of_mem hmem
    have hnone := hlast (stem ++ '.' :: before) ('.' :: after) (by simp) (by simp)
    cases hnone.symm.trans (readStop_eq_some_iff.2 rfl)
  · rintro ⟨rfl, hstop⟩
    refine ⟨⟨_, rfl, readStop_eq_some_iff.2 rfl⟩, fun longer later hname hlt => ?_⟩
    cases hread : readStop later with
    | none => rfl
    | some after =>
      obtain rfl := readStop_eq_some_iff.1 hread
      obtain ⟨between, rfl, hrest⟩ | ⟨between, rfl, -⟩ := List.append_eq_append_iff.1 hname
      · cases between with
        | nil => simp at hlt
        | cons c between =>
          rw [(List.cons.inj hrest).2] at hstop
          exact absurd (List.mem_append_right _ (List.mem_cons_self ..)) hstop
      · rw [List.length_append] at hlt
        exact absurd hlt (Nat.not_lt.2 (Nat.le_add_right ..))

theorem extension?_eq_some_iff {p : Path} {extension : Text} :
    p.extension? = some extension ↔ p.HasExtension extension := by
  rw [extension?, HasExtension]
  split
  · next name hname =>
    simp only [hname, Option.some.injEq, Component.name.injEq]
    split
    · next stem found hcut =>
      obtain ⟨hfound, hstop⟩ := lastCut?_readStop_iff.1 hcut
      constructor
      · intro h
        split at h
        · cases h
        · next hstem =>
          cases h
          exact ⟨stem, hfound, hstem, hstop⟩
      · rintro ⟨other, hother, hne, hotherStop⟩
        cases hcut.symm.trans (lastCut?_readStop_iff.2 ⟨hother, hotherStop⟩)
        exact if_neg hne
    · next hcut =>
      refine iff_of_false (by simp) ?_
      rintro ⟨stem, hstem, -, hstop⟩
      cases hcut.symm.trans (lastCut?_readStop_iff.2 ⟨hstem, hstop⟩)
  · next hname =>
    refine iff_of_false (by simp) ?_
    rintro ⟨stem, hstem, -⟩
    exact hname _ hstem

end Path

end DoxTriage
