import DoxTriage.Toml.Number

/-!
# Dates and times in TOML

A moment is a date, a time, or both, and with both there may be an offset from universal time. Its
parts have fixed widths and have to exist: there is no thirtieth of February. A minute has a second
60 now and then. Seconds may be left out.

## Main definitions

* `Toml.isDate`, `Toml.isTime`: the two halves.
* `Toml.isMoment`: a date, a time, or both.
-/

namespace DoxTriage

namespace Toml

/-- The number that exactly `width` digits write. -/
def fixedDigits? (width : Nat) (word : Text) : Option Nat :=
  if word.length = width ∧ word.all Char.isDigit then some (valueOf 10 word) else none

/-- The number of days of a month. -/
def daysOf (year month : Nat) : Nat :=
  if month = 2 then
    if (year % 4 = 0 ∧ year % 100 ≠ 0) ∨ year % 400 = 0 then 29 else 28
  else if month = 4 ∨ month = 6 ∨ month = 9 ∨ month = 11 then 30
  else 31

/-- The word is a date. -/
def isDate (word : Text) : Bool :=
  match Text.split '-' word with
  | [year, month, day] =>
    match fixedDigits? 4 year, fixedDigits? 2 month, fixedDigits? 2 day with
    | some year, some month, some day =>
      1 ≤ month && month ≤ 12 && 1 ≤ day && day ≤ daysOf year month
    | _, _, _ => false
  | _ => false

/-- The word is a number of two digits up to a greatest one. -/
def isUpTo (greatest : Nat) (word : Text) : Bool :=
  (fixedDigits? 2 word).any (· ≤ greatest)

/-- The word is seconds, with a fraction or without. -/
def isSeconds (word : Text) : Bool :=
  match cutAt (· = '.') word with
  | (whole, none) => isUpTo 60 whole
  | (whole, some part) => isUpTo 60 whole && part ≠ [] && part.all Char.isDigit

/-- The word is a time of day. -/
def isTime (word : Text) : Bool :=
  match Text.split ':' word with
  | [hour, minute] => isUpTo 23 hour && isUpTo 59 minute
  | [hour, minute, second] => isUpTo 23 hour && isUpTo 59 minute && isSeconds second
  | _ => false

/-- The word is hours and minutes. -/
def isOffset (word : Text) : Bool :=
  match Text.split ':' word with
  | [hour, minute] => isUpTo 23 hour && isUpTo 59 minute
  | _ => false

/-- The word is a time of day with an offset, or without one. -/
def isTimeWithOffset (word : Text) : Bool :=
  match word.getLast? with
  | some 'Z' | some 'z' => isTime word.dropLast
  | _ =>
    match cutAt (fun c => c = '+' || c = '-') word with
    | (time, none) => isTime time
    | (time, some offset) => isTime time && isOffset offset

/-- Characters between a date and a time. -/
def isDateEnd (c : Char) : Bool :=
  c = 'T' || c = 't' || c = ' '

/-- The word is a date, a time, or a date and a time. -/
def isMoment (word : Text) : Bool :=
  isDate word || isTime word ||
    match cutAt isDateEnd word with
    | (_, none) => false
    | (date, some time) => isDate date && isTimeWithOffset time

end Toml

end DoxTriage
