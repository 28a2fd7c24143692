import DoxTriage.Ascending
import Mathlib.Data.List.Sort

/-!
# What an ascending list holds

A collated list is made in one pass over sorted entries, and an entry that is shown may have taken
many others in. What it holds is still a matter of the entries alone: it holds something if and only
if one of the entries with its key does. The induction is over the sorted entries, and the step is
that the entry in front either meets its own key at the head of the list or has a key that no entry
after it has.

An ascending list is determined by its members. So to know which members a list has is to know the
list, and there is no need to follow how it was made.

## Main results

* `Ascending.nodup_keys`: one entry per key.
* `Ascending.eq_of_mem_iff`: a list is determined by its members.
* `holds_of_mem_collate`: what an entry of a collated list holds.
* `forall_mem_collate`: what taking in preserves is true of every entry.
-/

namespace DoxTriage

variable {α κ : Type} [LT κ] {key : α → κ}

/-! ### One entry per key -/

namespace Ascending

variable [Std.Irrefl (α := κ) (· < ·)] {entries others : List α}

theorem nodup_keys (h : Ascending key entries) : (entries.map key).Nodup := by
  rw [List.nodup_iff_pairwise_ne, List.pairwise_map]
  refine h.imp fun {a b} hab heq => ?_
  rw [heq] at hab
  exact Std.Irrefl.irrefl _ hab

variable [Trans (α := κ) (· < ·) (· < ·) (· < ·)]

/-- An ascending list is determined by its members. -/
theorem eq_of_mem_iff (h : Ascending key entries) (hothers : Ascending key others)
    (hmem : ∀ a, a ∈ entries ↔ a ∈ others) : entries = others := by
  have hirrefl : Std.Irrefl fun a b : α => key a < key b := ⟨fun a => Std.Irrefl.irrefl (key a)⟩
  have hasymm : Std.Antisymm fun a b : α => key a < key b :=
    ⟨fun a b hab hba => absurd (Trans.trans hab hba) (Std.Irrefl.irrefl (key a))⟩
  exact List.Pairwise.eq_of_mem_iff h hothers hmem

end Ascending

/-! ### What collated entries hold -/

section Collate

variable [DecidableLT κ] {takeIn : α → α → α}

/-- Entries that are in order already are not sorted again. -/
theorem collate_of_pairwise {entries : List α}
    (h : entries.Pairwise fun a b => notAfter key a b = true) :
    collate key takeIn entries = entries.foldr (gather key takeIn) [] := by
  rw [collate, List.mergeSort_of_pairwise h]

theorem forall_mem_foldr_gather {P : α → Prop} (hP : ∀ a b, P a → P b → P (takeIn a b))
    {entries : List α} (h : ∀ a ∈ entries, P a) :
    ∀ b ∈ entries.foldr (gather key takeIn) [], P b := by
  induction entries with
  | nil => intro b hb; cases hb
  | cons a entries ih =>
    have ha : P a := h a (List.mem_cons_self ..)
    have hrest := ih fun c hc => h c (List.mem_cons_of_mem _ hc)
    rw [List.foldr_cons]
    generalize entries.foldr (gather key takeIn) [] = gathered at hrest
    cases gathered with
    | nil =>
      intro b hb
      rw [List.mem_singleton.1 hb]
      exact ha
    | cons first others =>
      rw [gather_cons]
      split
      · exact List.forall_mem_cons.2 ⟨ha, hrest⟩
      · obtain ⟨hfirst, hothers⟩ := List.forall_mem_cons.1 hrest
        exact List.forall_mem_cons.2 ⟨hP a first ha hfirst, hothers⟩

/-- What is true of the entries and preserved by taking in is true of the collated list. -/
theorem forall_mem_collate {P : α → Prop} (hP : ∀ a b, P a → P b → P (takeIn a b))
    {entries : List α} (h : ∀ a ∈ entries, P a) : ∀ b ∈ collate key takeIn entries, P b :=
  forall_mem_foldr_gather hP fun a ha => h a (List.mem_mergeSort.1 ha)

variable [Trans (α := κ) (· < ·) (· < ·) (· < ·)] [Std.Trichotomous (α := κ) (· < ·)]
  [Std.Irrefl (α := κ) (· < ·)]

theorem holds_of_mem_foldr_gather (holds : α → Prop) (hkey : ∀ a b, key (takeIn a b) = key a)
    (hholds : ∀ a b, holds (takeIn a b) ↔ holds a ∨ holds b) {entries : List α}
    (h : entries.Pairwise fun a b => notAfter key a b = true) :
    ∀ b ∈ entries.foldr (gather key takeIn) [],
      (holds b ↔ ∃ a ∈ entries, key a = key b ∧ holds a) := by
  induction entries with
  | nil => intro b hb; cases hb
  | cons a entries ih =>
    obtain ⟨ha, hrest⟩ := List.pairwise_cons.1 h
    obtain ⟨hmem, hasc⟩ := gather_laws hkey entries hrest
    have hheld := ih hrest
    rw [List.foldr_cons]
    generalize entries.foldr (gather key takeIn) [] = gathered at hmem hasc hheld
    -- The entry in front matters to an entry with its key and to no other one.
    have hother : ∀ b ∈ gathered, key a ≠ key b →
        (holds b ↔ ∃ c ∈ a :: entries, key c = key b ∧ holds c) := by
      intro b hb hne
      rw [hheld b hb, List.exists_mem_cons_iff]
      exact ⟨.inr, fun hor => hor.resolve_left fun hfront => hne hfront.1⟩
    cases gathered with
    | nil =>
      have hnil : entries = [] := by
        refine List.eq_nil_iff_forall_not_mem.2 fun c hc => ?_
        exact absurd ((hmem (key c)).2 (List.mem_map_of_mem hc)) List.not_mem_nil
      intro b hb
      rw [List.mem_singleton.1 hb, hnil]
      simp
    | cons first others =>
      obtain ⟨hfirst, hothers⟩ := List.pairwise_cons.1 hasc
      rw [gather_cons]
      split
      · next hlt =>
        have hbelow : ∀ b ∈ first :: others, key a < key b :=
          List.forall_mem_cons.2 ⟨hlt, fun b hb => Trans.trans hlt (hfirst b hb)⟩
        refine List.forall_mem_cons.2 ⟨?_, ?_⟩
        · constructor
          · intro hold
            exact ⟨a, List.mem_cons_self .., rfl, hold⟩
          · rintro ⟨c, hc, hsame, hold⟩
            rcases List.mem_cons.1 hc with rfl | hc
            · exact hold
            · obtain ⟨b, hb, heq⟩ := List.mem_map.1 ((hmem (key c)).2 (List.mem_map_of_mem hc))
              have habove := hbelow b hb
              rw [heq, hsame] at habove
              exact absurd habove (Std.Irrefl.irrefl _)
        · intro b hb
          refine hother b hb fun heq => ?_
          have habove := hbelow b hb
          rw [heq] at habove
          exact Std.Irrefl.irrefl _ habove
      · next hlt =>
        have hnot : ¬ key first < key a := by
          obtain ⟨c, hc, heq⟩ := List.mem_map.1 ((hmem (key first)).1 (List.mem_cons_self ..))
          exact heq ▸ notAfter_iff.1 (ha c hc)
        have hsame : key a = key first := Std.Trichotomous.trichotomous _ _ hlt hnot
        refine List.forall_mem_cons.2 ⟨?_, ?_⟩
        · rw [hholds, hkey, hheld first (List.mem_cons_self ..), List.exists_mem_cons_iff, hsame]
          simp
        · intro b hb
          refine hother b (List.mem_cons_of_mem _ hb) fun heq => ?_
          have habove := hfirst b hb
          rw [← hsame, heq] at habove
          exact Std.Irrefl.irrefl _ habove

/-- An entry of a collated list holds what the entries with its key hold. -/
theorem holds_of_mem_collate (holds : α → Prop) (hkey : ∀ a b, key (takeIn a b) = key a)
    (hholds : ∀ a b, holds (takeIn a b) ↔ holds a ∨ holds b) {entries : List α} {b : α}
    (hb : b ∈ collate key takeIn entries) :
    holds b ↔ ∃ a ∈ entries, key a = key b ∧ holds a := by
  rw [holds_of_mem_foldr_gather holds hkey hholds (pairwise_mergeSort_notAfter entries) b hb]
  simp only [List.mem_mergeSort]

end Collate

end DoxTriage
