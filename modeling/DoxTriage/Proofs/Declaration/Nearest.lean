import DoxTriage.Declaration.Members
import DoxTriage.Proofs.FirstFailure

/-!
# The nearest declaration

A comment belongs to the first declaration after it, and that declaration is found by halving. What
halving finds has a meaning only if the declarations are in order; then it is the place where going
through them one by one would have stopped (`firstFailure_eq_findIdx`). In terms of the declarations
alone, whatever their arrangement, it is the least one after the line.

There is at most one such declaration, although several may be declared on one line and several may
even be equal: the order is by line *and* parameter list, so two least ones are one declaration.

Equal declarations are told apart by their places only. Where halving stops is a place, too, so the
agreement with going through the declarations is one of places first, and of what stands there
second (`Declaration.nearestAfter?_agrees`).

The declarations of a document are in order because they were sorted when the document was read.

## Main definitions

* `Declaration.IsNearest`: the least declaration after a line.
* `Declaration.placeAfter`: the place where halving stops.

## Main results

* `firstFailure_eq_findIdx`: halving stops where going through a list stops.
* `Declaration.nearestAfter?_eq_some_iff`: halving finds the least declaration after a line.
* `Declaration.nearestAfter?_agrees`: halving finds what stands first after a line, in its place.
* `Declaration.pairwise_ofDocument`: the declarations of a document are in order.
-/

namespace DoxTriage

/-! ### Halving a list -/

section Halving

variable {α : Type} {holds : α → Bool} {items : List α}

/-- If a test that holds for an item holds for all items before it, then halving finds the first
item for which it fails. -/
theorem firstFailure_eq_findIdx
    (h : items.Pairwise fun a b => holds b = true → holds a = true) :
    firstFailure (fun i => items[i]?.any holds) 0 items.length =
      items.findIdx (! holds ·) := by
  -- halving knows nothing of lists, so the order of the items becomes one of indices
  have hback : ∀ i j, i ≤ j → j < 0 + items.length →
      items[j]?.any holds = true → items[i]?.any holds = true := by
    intro i j hij hj hholds
    rw [Nat.zero_add] at hj
    rcases Nat.lt_or_eq_of_le hij with hlt | rfl
    · have hi : i < items.length := Nat.lt_trans hlt hj
      rw [List.getElem?_eq_getElem hj, Option.any_some] at hholds
      rw [List.getElem?_eq_getElem hi, Option.any_some]
      exact List.pairwise_iff_getElem.1 h i j hi hj hlt hholds
    · exact hholds
  obtain ⟨-, hle, hbelow, habove⟩ := firstFailure_laws hback
  generalize firstFailure (fun i => items[i]?.any holds) 0 items.length = found at *
  rw [Nat.zero_add] at hle
  have hbelow' : ∀ i (hi : i < items.length), i < found → holds items[i] = true := by
    intro i hi hlt
    have hany := hbelow i (Nat.zero_le i) hlt
    rwa [List.getElem?_eq_getElem hi, Option.any_some] at hany
  rcases Nat.lt_or_eq_of_le hle with hlt | rfl
  · have hfails := habove found (Nat.le_refl _) (by omega)
    rw [List.getElem?_eq_getElem hlt, Option.any_some] at hfails
    refine ((List.findIdx_eq hlt).2 ⟨by rw [hfails]; rfl, fun i hi => ?_⟩).symm
    rw [hbelow' i (by omega) hi]
    rfl
  · refine (List.findIdx_eq_length.2 fun item hitem => ?_).symm
    obtain ⟨i, hi, rfl⟩ := List.getElem_of_mem hitem
    rw [hbelow' i hi hi]
    rfl

/-- The place of what is found by going through a list. -/
theorem findIdx?_eq_map_find? (test : α → Bool) (items : List α) :
    items.findIdx? test = (items.find? test).map fun _ => items.findIdx test := by
  cases hfound : items.find? test with
  | none =>
    rw [Option.map_none, List.findIdx?_eq_none_iff_findIdx_eq, List.findIdx_eq_length]
    exact fun item hitem => Bool.eq_false_iff.2 (List.find?_eq_none.1 hfound item hitem)
  | some item =>
    rw [List.find?_eq_getElem?_findIdx] at hfound
    obtain ⟨hlt, -⟩ := List.getElem?_eq_some_iff.1 hfound
    exact List.findIdx?_eq_some_iff_findIdx_eq.2 ⟨hlt, rfl⟩

end Halving

namespace Declaration

variable {line : Nat} {found : List Declaration} {declaration other : Declaration}

/-! ### The least declaration after a line -/

/-- The least of several declarations whose lines are greater than a given line. -/
structure IsNearest (line : Nat) (found : List Declaration) (declaration : Declaration) :
    Prop where
  mem : declaration ∈ found
  line_lt : line < declaration.line
  before_of_lt : ∀ other ∈ found, line < other.line → declaration.before other = true

theorem before_refl (declaration : Declaration) : declaration.before declaration = true :=
  before_iff.2 (.inr ⟨rfl, List.not_lt.2 (List.le_refl _)⟩)

theorem before_antisymm (h : declaration.before other = true)
    (hother : other.before declaration = true) : declaration = other := by
  rw [before_iff] at h hother
  rcases h with hlt | ⟨hline, hle⟩
  · rcases hother with hgt | ⟨heq, -⟩ <;> omega
  · rcases hother with hgt | ⟨-, hge⟩
    · omega
    · have hparameters : declaration.parameters = other.parameters :=
        List.le_antisymm (List.not_lt.1 hle) (List.not_lt.1 hge)
      cases declaration
      cases other
      cases hline
      cases hparameters
      rfl

/-- There is one way to sort. -/
theorem sort_eq_of_perm {sorted : List Declaration} (hperm : found.Perm sorted)
    (h : sorted.Pairwise fun a b => a.before b = true) : sort found = sorted :=
  ((sort_perm found).trans hperm).eq_of_pairwise (fun _ _ _ _ => before_antisymm)
    (pairwise_sort found) h

theorem line_le_of_before (h : declaration.before other = true) :
    declaration.line ≤ other.line := by
  rcases before_iff.1 h with hlt | ⟨heq, -⟩ <;> omega

theorem IsNearest.unique (h : IsNearest line found declaration)
    (hother : IsNearest line found other) : declaration = other :=
  before_antisymm (h.before_of_lt other hother.mem hother.line_lt)
    (hother.before_of_lt declaration h.mem h.line_lt)

/-- The place where halving stops, which is behind all declarations if none is after the line. -/
def placeAfter (line : Nat) (sorted : Array Declaration) : Nat :=
  firstFailure (fun i => sorted[i]?.any (·.line ≤ line)) 0 sorted.size

/-- What is found stands in the place where halving stops. -/
theorem nearestAfter?_eq_getElem? (line : Nat) (sorted : Array Declaration) :
    nearestAfter? line sorted = sorted[placeAfter line sorted]? := rfl

/-- Halving stops where going through the declarations stops. -/
theorem placeAfter_eq_findIdx (h : found.Pairwise fun a b => a.before b = true) (line : Nat) :
    placeAfter line found.toArray = found.findIdx fun d => ! decide (d.line ≤ line) := by
  have hback : found.Pairwise fun a b : Declaration =>
      decide (b.line ≤ line) = true → decide (a.line ≤ line) = true := by
    refine h.imp fun hbefore => ?_
    rw [decide_eq_true_iff, decide_eq_true_iff]
    exact Nat.le_trans (line_le_of_before hbefore)
  simp only [placeAfter, List.getElem?_toArray, List.size_toArray]
  exact firstFailure_eq_findIdx hback

/-- Halving finds what going through the declarations finds. -/
theorem nearestAfter?_eq_find? (h : found.Pairwise fun a b => a.before b = true) (line : Nat) :
    nearestAfter? line found.toArray = found.find? fun d => ! decide (d.line ≤ line) := by
  rw [nearestAfter?_eq_getElem?, placeAfter_eq_findIdx h, List.getElem?_toArray,
    List.find?_eq_getElem?_findIdx]

/-- **Halving finds the least declaration after a line**, if the declarations are in order. -/
theorem nearestAfter?_eq_some_iff (h : found.Pairwise fun a b => a.before b = true) :
    nearestAfter? line found.toArray = some declaration ↔ IsNearest line found declaration := by
  have hfound : ∀ {d}, nearestAfter? line found.toArray = some d → IsNearest line found d := by
    intro d hd
    rw [nearestAfter?_eq_find? h, List.find?_eq_some_iff_append] at hd
    obtain ⟨hline, earlier, later, rfl, hearlier⟩ := hd
    refine ⟨List.mem_append_right _ (List.mem_cons_self ..), by simpa using hline, ?_⟩
    intro other hother hlt
    rcases List.mem_append.1 hother with hother | hother
    · have hle : other.line ≤ line := by simpa using hearlier other hother
      omega
    · rcases List.mem_cons.1 hother with rfl | hother
      · exact before_refl other
      · exact List.rel_of_pairwise_cons (List.pairwise_append.1 h).2.1 hother
  -- conversely something is found, and there is only one least declaration
  refine ⟨hfound, fun hnearest => ?_⟩
  cases hd : nearestAfter? line found.toArray with
  | some d => rw [(hfound hd).unique hnearest]
  | none =>
    rw [nearestAfter?_eq_find? h, List.find?_eq_none] at hd
    have hle : declaration.line ≤ line := by simpa using hd declaration hnearest.mem
    exact absurd hnearest.line_lt (Nat.not_lt.2 hle)

theorem nearestAfter?_eq_none_iff (h : found.Pairwise fun a b => a.before b = true) :
    nearestAfter? line found.toArray = none ↔ ∀ d ∈ found, d.line ≤ line := by
  rw [nearestAfter?_eq_find? h, List.find?_eq_none]
  simp

/-- **Halving agrees with going through the declarations from the front.** It stops at the place of
the first one whose line is greater than a given line, however many equal ones follow, and finds
what stands there. It finds nothing if and only if no line is greater. -/
theorem nearestAfter?_agrees (h : found.Pairwise fun a b => a.before b = true) (line : Nat) :
    nearestAfter? line found.toArray = found.toArray[placeAfter line found.toArray]? ∧
      (nearestAfter? line found.toArray).map (fun _ => placeAfter line found.toArray) =
        found.findIdx? (line < ·.line) ∧
      nearestAfter? line found.toArray = found.find? (line < ·.line) ∧
      (nearestAfter? line found.toArray = none ↔ ∀ d ∈ found, d.line ≤ line) := by
  have hafter : (fun d : Declaration => ! decide (d.line ≤ line)) =
      fun d => decide (line < d.line) := by
    funext d
    rw [← decide_not, Bool.decide_congr Nat.not_le]
  have hplace := placeAfter_eq_findIdx h line
  have hfound := nearestAfter?_eq_find? h line
  rw [hafter] at hplace hfound
  refine ⟨nearestAfter?_eq_getElem? line _, ?_, hfound, nearestAfter?_eq_none_iff h⟩
  rw [hplace, hfound, findIdx?_eq_map_find?]

/-- Of two equal declarations the first one is found, in its place; and none comes after the line
that they share. -/
theorem nearestAfter?_agrees_of_equal_declarations :
    let found : List Declaration :=
      [⟨3, "(int)".toList⟩, ⟨5, "()".toList⟩, ⟨5, "()".toList⟩, ⟨5, "(int)".toList⟩]
    found.Pairwise (fun a b => a.before b = true) ∧
      (nearestAfter? 3 found.toArray).map (fun _ => placeAfter 3 found.toArray) = some 1 ∧
      nearestAfter? 3 found.toArray = some ⟨5, "()".toList⟩ ∧
      nearestAfter? 5 found.toArray = none := by
  intro found
  have hordered : found.Pairwise fun a b => a.before b = true := by decide +kernel
  obtain ⟨-, hplace, hfound, -⟩ := nearestAfter?_agrees hordered 3
  obtain ⟨-, -, -, hnone⟩ := nearestAfter?_agrees hordered 5
  exact ⟨hordered, hplace.trans (by decide +kernel), hfound.trans (by decide +kernel),
    hnone.2 (by decide +kernel)⟩

/-! ### The declarations of a document -/

/-- The declarations of a document are in order. -/
theorem pairwise_ofDocument {marker file text : Text}
    (h : ofDocument marker file text = .ok found) :
    found.Pairwise fun a b => a.before b = true := by
  rw [ofDocument, ofReading] at h
  split at h
  · cases h
  · cases h
  · cases h
    exact pairwise_sort _

/-- The members of a document may come in any order. -/
theorem ofDocument_eq_ok_of_perm {marker file text : Text} {progress : Progress}
    (hprogress : (Xml.read text).events.foldlM (Progress.after marker file) {} = .ok progress)
    (hfault : (Xml.read text).fault = none) (hperm : progress.found.Perm found)
    (h : found.Pairwise fun a b => a.before b = true) :
    ofDocument marker file text = .ok found := by
  rw [ofDocument, ofReading, hprogress, hfault]
  exact congrArg Except.ok (sort_eq_of_perm hperm h)

end Declaration

end DoxTriage
