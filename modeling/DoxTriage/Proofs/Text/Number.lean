import DoxTriage.Text.Digit

/-!
# What writes a line number

A record is recognised by digits of any script, and its line number is read from ASCII digits that
fit. Of a text that has been recognised, what is missing for a line number can be said without the
reader: a digit is foreign, or the value is too large.

## Main definitions

* `Text.Writes`: a text writes a line number.

## Main results

* `Text.lineNumber?_eq_some_iff_writes`: what is read from digits is what they write.
* `Text.writes_decimal`: a line number is written by its decimal digits.
-/

namespace DoxTriage

namespace Text

/-- The digits write a line number: they are ASCII digits, and the value fits. -/
structure Writes (digits : Text) (number : Nat) : Prop where
  isDigit_of_mem : ∀ c ∈ digits, c.isDigit = true
  value_eq : Nat.ofDigitChars 10 digits 0 = number
  lt_lineBound : number < lineBound

variable {digits : Text} {number : Nat}

/-- Among the digits of all scripts there is no sign, so no plus is in front. -/
theorem lineNumber?_eq_some_iff_writes (hne : digits ≠ [])
    (h : ∀ c ∈ digits, isDigit c = true) :
    lineNumber? digits = some number ↔ Writes digits number := by
  have hplus : digits.head? ≠ some '+' := by
    intro hhead
    have hdigit := h '+' (List.mem_of_mem_head? hhead)
    exact absurd hdigit (by decide)
  simp only [lineNumber?, if_neg hplus]
  constructor
  · intro hnumber
    split at hnumber
    · next hfits =>
      cases hnumber
      exact ⟨List.all_eq_true.1 hfits.2.1, rfl, hfits.2.2⟩
    · cases hnumber
  · rintro ⟨hall, rfl, hlt⟩
    exact if_pos ⟨hne, List.all_eq_true.2 hall, hlt⟩

theorem isDigit_decimal (number : Nat) : ∀ c ∈ decimal number, isDigit c = true :=
  fun _ hc => isDigit_of_isDigit (isDigit_of_mem_decimal hc)

theorem decimal_ne_nil (number : Nat) : decimal number ≠ [] :=
  Nat.toDigits_ne_nil

theorem writes_decimal (h : number < lineBound) : Writes (decimal number) number :=
  ⟨fun _ hc => isDigit_of_mem_decimal hc, Nat.ofDigitChars_ten_toDigits, h⟩

end Text

end DoxTriage
