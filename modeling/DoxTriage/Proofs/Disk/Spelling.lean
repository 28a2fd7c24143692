import DoxTriage.Proofs.Disk

/-!
# Two spellings of a path

Spellings of one path have the same components, but they are not equally good. A slash at the end
asks for a directory, a part `.` asks for the directory it stays in, and a spelling can be too long.
So one spelling of a document may be readable and another one not.

If both are readable, then they have the same text. Where a path leads, if it leads anywhere, is
said by its components and the current directory, whatever else is on the disk: each step that
succeeds goes where its part of the path says (`eq_named_of_locate`), and a part that is no
component stays where it is (`named_eq_foldl`).

## Main definitions

* `Path.Component.follow`: where a component leads.

## Main results

* `Disk.eq_named_of_locate`: a path leads where it says.
* `Disk.named_eq_foldl`: what a path says is said by its components.
* `Disk.read_eq_of_same`: spellings of one path lead to one text.
-/

namespace DoxTriage

/-- Where a component leads from a location. -/
def Path.Component.follow (location : Location) : Path.Component → Location
  | .root => []
  | .here => location
  | .up => location.dropLast
  | .name part => location ++ [part]

namespace Disk

variable {disk : Disk} {location : Location} {p q : Path}

/-! ### Where a path leads -/

/-- Steps that succeed lead where they say. -/
theorem eq_foldl_of_walk {names : List Text} {next : Location}
    (h : disk.walk location names = .ok next) : next = names.foldl lexicalStep location := by
  induction names generalizing location with
  | nil =>
    cases h
    rfl
  | cons name names ih =>
    rw [walk_cons] at h
    obtain ⟨between, hstep, hwalk⟩ := Except.bind_eq_ok_iff.1 h
    obtain ⟨-, -, rfl⟩ := step_eq_ok_iff.1 hstep
    exact ih hwalk

/-- A path that leads anywhere leads where it says. -/
theorem eq_named_of_locate (h : disk.locate p = .ok location) : location = disk.named p := by
  rw [locate] at h
  split at h
  · cases h
  · exact eq_foldl_of_walk h

/-! ### What a path says -/

/-- A part of a path leads where its component leads, and nowhere if it is none. -/
theorem lexicalStep_eq_foldl {part : Text} (h : part ≠ []) (location : Location) :
    lexicalStep location part =
      (Path.Component.ofPart? part).toList.foldl Path.Component.follow location := by
  rw [lexicalStep, Path.Component.ofPart?]
  by_cases hhere : part = ['.']
  · rw [if_pos hhere, if_pos (.inr hhere)]
    rfl
  · rw [if_neg hhere, if_neg (not_or.2 ⟨h, hhere⟩)]
    split <;> rfl

/-- Only components lead anywhere. -/
theorem foldl_lexicalStep (parts : List Text) (location : Location) :
    (parts.filter (· ≠ [])).foldl lexicalStep location =
      (parts.filterMap Path.Component.ofPart?).foldl Path.Component.follow location := by
  induction parts generalizing location with
  | nil => rfl
  | cons part parts ih =>
    by_cases hpart : part = []
    · rw [List.filter_cons_of_neg (by simp [hpart]), List.filterMap_cons_none (by simp [hpart,
        Path.Component.ofPart?]), ih]
    · rw [List.filter_cons_of_pos (by simp [hpart]), List.foldl_cons, lexicalStep_eq_foldl hpart,
        ih]
      cases hcomponent : Path.Component.ofPart? part with
      | none => rw [List.filterMap_cons_none hcomponent]; rfl
      | some component => rw [List.filterMap_cons_some hcomponent]; rfl

/-- What a path says is said by its components and the current directory. -/
theorem named_eq_foldl (disk : Disk) (p : Path) :
    disk.named p = p.components.foldl Path.Component.follow disk.current := by
  -- a slash at the end is a step on the spot
  have hslash : ∀ location : Location,
      (if p.text.getLast? = some '/' then [['.']] else []).foldl lexicalStep location =
        location := by
    intro location
    split <;> rfl
  rw [named, stepsOf, List.foldl_append, hslash, foldl_lexicalStep, startOf, Path.components]
  rw [List.foldl_append]
  congr 1
  split
  · rfl
  · split <;> rfl

/-! ### Reading -/

theorem locate_eq_of_same {other : Location} (h : p.same q = true)
    (hp : disk.locate p = .ok location) (hq : disk.locate q = .ok other) : location = other := by
  rw [eq_named_of_locate hp, eq_named_of_locate hq, named_eq_foldl, named_eq_foldl,
    Path.same_iff.1 h]

/-- **Spellings of one path lead to one text**, if they lead to any. -/
theorem read_eq_of_same {text other : Text} (h : p.same q = true) (hp : disk.read p = .ok text)
    (hq : disk.read q = .ok other) : text = other := by
  obtain ⟨location, hlocate, htext⟩ := read_eq_ok_iff.1 hp
  obtain ⟨next, hnext, hother⟩ := read_eq_ok_iff.1 hq
  rw [← locate_eq_of_same h hlocate hnext, htext] at hother
  cases hother
  rfl

end Disk

end DoxTriage
