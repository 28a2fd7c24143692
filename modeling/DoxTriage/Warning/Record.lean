import DoxTriage.Ascending
import DoxTriage.SourceName
import DoxTriage.Warning.Basic

/-!
# Records

What is triaged is not the single occurrence of a warning but the record of all its occurrences.
Two warnings are occurrences of one thing if they agree in the name of the source file, the line and
the headline, which together are the key. A record has the contexts of all occurrences as a set,
and a set of texts is kept as an ascending list.

## Main definitions

* `Key`: name of a source file, line and headline, with the order of reports.
* `Record`: a key and a set of contexts.
* `Contexts.ofList`, `Contexts.union`: sets of contexts.
* `Record.ofWarning`, `Record.takeIn`: the record of one occurrence, and of several.

## Main results

* `Key.lt_trans`, `Key.lt_irrefl`, `Key.eq_of_not_lt`: the order of keys is linear.
* `Contexts.mem_union`: union is union.
-/

namespace DoxTriage

/-- What occurrences of one warning have in common. -/
structure Key where
  file : Text
  line : Nat
  headline : Text
  deriving DecidableEq, Repr

/-- By file, by line in one file, and by headline on one line. -/
instance : LT Key where
  lt a b := a.file < b.file ∨
    a.file = b.file ∧ (a.line < b.line ∨ a.line = b.line ∧ a.headline < b.headline)

theorem Key.lt_iff {a b : Key} :
    a < b ↔ a.file < b.file ∨
      a.file = b.file ∧ (a.line < b.line ∨ a.line = b.line ∧ a.headline < b.headline) :=
  Iff.rfl

instance : DecidableLT Key := fun a b =>
  inferInstanceAs (Decidable (a.file < b.file ∨
    a.file = b.file ∧ (a.line < b.line ∨ a.line = b.line ∧ a.headline < b.headline)))

theorem Key.lt_trans {a b c : Key} (hab : a < b) (hbc : b < c) : a < c := by
  rw [Key.lt_iff] at *
  rcases hab with hf | ⟨hf, hab⟩ <;> rcases hbc with hg | ⟨hg, hbc⟩
  · exact .inl (List.lt_trans hf hg)
  · exact .inl (hg ▸ hf)
  · exact .inl (hf ▸ hg)
  · refine .inr ⟨hf.trans hg, ?_⟩
    rcases hab with hl | ⟨hl, hab⟩ <;> rcases hbc with hm | ⟨hm, hbc⟩
    · exact .inl (by omega)
    · exact .inl (by omega)
    · exact .inl (by omega)
    · exact .inr ⟨by omega, List.lt_trans hab hbc⟩

theorem Key.lt_irrefl (a : Key) : ¬ a < a := by
  rw [Key.lt_iff]
  rintro (h | ⟨-, h | ⟨-, h⟩⟩)
  · exact List.lt_irrefl _ h
  · omega
  · exact List.lt_irrefl _ h

theorem Key.eq_of_not_lt {a b : Key} (hab : ¬ a < b) (hba : ¬ b < a) : a = b := by
  rw [Key.lt_iff, not_or, not_and, not_or, not_and] at hab hba
  have hfile : a.file = b.file := List.le_antisymm hba.1 hab.1
  obtain ⟨hl, hab⟩ := hab.2 hfile
  obtain ⟨hm, hba⟩ := hba.2 hfile.symm
  have hline : a.line = b.line := by omega
  have hhead : a.headline = b.headline := List.le_antisymm (hba hline.symm) (hab hline)
  cases a
  cases b
  simp_all

instance : Trans (α := Key) (· < ·) (· < ·) (· < ·) where
  trans := Key.lt_trans

instance : Std.Irrefl (α := Key) (· < ·) := ⟨Key.lt_irrefl⟩

instance : Std.Trichotomous (α := Key) (· < ·) := ⟨fun _ _ => Key.eq_of_not_lt⟩

/-- The key of a warning. -/
def Warning.key (marker : Text) (warning : Warning) : Key :=
  ⟨sourceName marker warning.file, warning.line, warning.headline⟩

/-! ### Sets of contexts -/

namespace Contexts

/-- The set of several contexts. -/
def ofList (contexts : List Text) : List Text :=
  collate id (fun context _ => context) contexts

/-- What is in one set or the other. -/
def union (contexts others : List Text) : List Text :=
  ofList (contexts ++ others)

theorem mem_ofList {contexts : List Text} {context : Text} :
    context ∈ ofList contexts ↔ context ∈ contexts := by
  have h := @mem_map_key_collate Text Text _ _ id (fun context _ => context) _ _ _
    (fun _ _ => rfl) contexts context
  simpa [ofList] using h

theorem mem_union {contexts others : List Text} {context : Text} :
    context ∈ union contexts others ↔ context ∈ contexts ∨ context ∈ others := by
  rw [union, mem_ofList, List.mem_append]

theorem ascending_ofList (contexts : List Text) : Ascending id (ofList contexts) :=
  ascending_collate (fun _ _ => rfl) contexts

end Contexts

/-! ### Records -/

/-- All occurrences of one warning: their key and the set of their contexts. -/
structure Record extends Key where
  contexts : List Text
  deriving DecidableEq, Repr

namespace Record

/-- The record of one occurrence. -/
def ofWarning (marker : Text) (warning : Warning) : Record where
  toKey := warning.key marker
  contexts := Contexts.ofList warning.context

/-- A record with the contexts of another one taken in. -/
def takeIn (record other : Record) : Record :=
  { record with contexts := Contexts.union record.contexts other.contexts }

@[simp] theorem toKey_takeIn (record other : Record) :
    (record.takeIn other).toKey = record.toKey := rfl

end Record

end DoxTriage
