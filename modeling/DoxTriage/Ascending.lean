/-!
# Ascending lists

A collection that is shown in the order of its keys, with one entry per key, is kept as the list
that is shown. Such a list is made from entries in any order: they are sorted, and then neighbours
with one key become one entry. What the list holds does not depend on the order in which the entries
came, as long as taking one entry into another does not.

## Main definitions

* `Ascending`: every key is below the keys after it.
* `collate`: the ascending list of some entries.

## Main results

* `mem_map_key_collate`: the keys are those of the entries.
* `ascending_collate`: the list is ascending.
-/

namespace DoxTriage

variable {α κ : Type} [LT κ]

/-- Every key is below the keys after it. -/
def Ascending (key : α → κ) (entries : List α) : Prop :=
  entries.Pairwise fun a b => key a < key b

instance [DecidableLT κ] (key : α → κ) (entries : List α) : Decidable (Ascending key entries) :=
  inferInstanceAs (Decidable (entries.Pairwise fun a b => key a < key b))

/-- The order to sort by: the key of `a` is not above the key of `b`. -/
def notAfter [DecidableLT κ] (key : α → κ) (a b : α) : Bool :=
  ! decide (key b < key a)

/-- Put an entry in front of an ascending list none of whose keys is below its own. It takes in the
first entry of the list if that has the same key. -/
def gather [DecidableLT κ] (key : α → κ) (takeIn : α → α → α) (a : α) : List α → List α
  | [] => [a]
  | b :: entries => if key a < key b then a :: b :: entries else takeIn a b :: entries

/-- The ascending list of some entries. An entry takes in those with the same key. -/
def collate [DecidableLT κ] (key : α → κ) (takeIn : α → α → α) (entries : List α) : List α :=
  (entries.mergeSort (notAfter key)).foldr (gather key takeIn) []

section Laws

variable [DecidableLT κ] {key : α → κ} {takeIn : α → α → α}

theorem notAfter_iff {a b : α} : notAfter key a b = true ↔ ¬ key b < key a := by
  simp [notAfter]

theorem gather_cons (a b : α) (entries : List α) :
    gather key takeIn a (b :: entries) =
      if key a < key b then a :: b :: entries else takeIn a b :: entries := rfl

variable [Trans (α := κ) (· < ·) (· < ·) (· < ·)]

theorem notAfter_total [Std.Irrefl (α := κ) (· < ·)] (a b : α) :
    (notAfter key a b || notAfter key b a) = true := by
  rw [Bool.or_eq_true, notAfter_iff, notAfter_iff]
  by_cases hba : key b < key a
  · exact .inr fun hab => Std.Irrefl.irrefl (key a) (Trans.trans hab hba)
  · exact .inl hba

variable [Std.Trichotomous (α := κ) (· < ·)]

theorem notAfter_trans (a b c : α) (hab : notAfter key a b = true)
    (hbc : notAfter key b c = true) : notAfter key a c = true := by
  rw [notAfter_iff] at *
  intro hca
  by_cases h : key a < key b
  · exact hbc (Trans.trans hca h)
  · rw [Std.Trichotomous.trichotomous _ _ h hab] at hca
    exact hbc hca

/-- Gathering sorted entries keeps exactly their keys and gives an ascending list. -/
theorem gather_laws (hkey : ∀ a b, key (takeIn a b) = key a) (entries : List α)
    (h : entries.Pairwise fun a b => notAfter key a b = true) :
    (∀ k, k ∈ (entries.foldr (gather key takeIn) []).map key ↔ k ∈ entries.map key) ∧
      Ascending key (entries.foldr (gather key takeIn) []) := by
  induction entries with
  | nil => exact ⟨fun _ => Iff.rfl, List.Pairwise.nil⟩
  | cons a entries ih =>
    obtain ⟨ha, hrest⟩ := List.pairwise_cons.1 h
    obtain ⟨hmem, hasc⟩ := ih hrest
    rw [List.foldr_cons]
    generalize hg : entries.foldr (gather key takeIn) [] = gathered at hmem hasc
    cases gathered with
    | nil =>
      have hnil : entries.map key = [] := by
        refine List.eq_nil_iff_forall_not_mem.2 fun k hk => ?_
        exact absurd ((hmem k).2 hk) List.not_mem_nil
      simp [gather, hnil, Ascending]
    | cons b others =>
      obtain ⟨hb, hothers⟩ := List.pairwise_cons.1 hasc
      have hfirst : ¬ key b < key a := by
        obtain ⟨c, hc, e⟩ := List.mem_map.1 ((hmem (key b)).1 (List.mem_cons_self ..))
        exact e ▸ notAfter_iff.1 (ha c hc)
      rw [gather_cons]
      split
      · next hab =>
        refine ⟨fun k => ?_, List.pairwise_cons.2 ⟨fun c hc => ?_, hasc⟩⟩
        · rw [List.map_cons, List.mem_cons, hmem, List.map_cons, List.mem_cons]
        · rcases List.mem_cons.1 hc with rfl | hc
          · exact hab
          · exact Trans.trans hab (hb c hc)
      · next hab =>
        have hsame : key a = key b := Std.Trichotomous.trichotomous _ _ hab hfirst
        refine ⟨fun k => ?_, List.pairwise_cons.2 ⟨fun c hc => ?_, hothers⟩⟩
        · rw [List.map_cons, List.map_cons, List.mem_cons, List.mem_cons, ← hmem, hkey,
            List.map_cons, List.mem_cons, ← hsame]
          constructor
          · rintro (h | h)
            · exact .inl h
            · exact .inr (.inr h)
          · rintro (h | h | h)
            · exact .inl h
            · exact .inl h
            · exact .inr h
        · rw [hkey, hsame]
          exact hb c hc

variable [Std.Irrefl (α := κ) (· < ·)]

theorem pairwise_mergeSort_notAfter (entries : List α) :
    (entries.mergeSort (notAfter key)).Pairwise fun a b => notAfter key a b = true :=
  List.pairwise_mergeSort notAfter_trans notAfter_total entries

theorem mem_map_key_collate (hkey : ∀ a b, key (takeIn a b) = key a) {entries : List α} {k : κ} :
    k ∈ (collate key takeIn entries).map key ↔ k ∈ entries.map key := by
  rw [collate, (gather_laws hkey _ (pairwise_mergeSort_notAfter entries)).1]
  exact ((List.mergeSort_perm entries (notAfter key)).map key).mem_iff

theorem ascending_collate (hkey : ∀ a b, key (takeIn a b) = key a) (entries : List α) :
    Ascending key (collate key takeIn entries) :=
  (gather_laws hkey _ (pairwise_mergeSort_notAfter entries)).2

end Laws

end DoxTriage
