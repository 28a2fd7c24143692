import DoxTriage.Text.Digit
import DoxTriage.Warning.Basic

/-!
# The warning log

The log of the documentation generator holds one record per warning, between lines of other kinds.
A record starts with a line `doxygen:FILE:LINE: warning: MESSAGE`, and goes on over the following
lines as long as they are empty or indented. A file name may contain anything, so it ends at the
first place where the rest of the line can be read.

A start whose number is no line number is dropped, and what is indented below it belongs to nothing.
No other place to end the file name is tried for it.

## Main definitions

* `Warning.Start.ofLine?`: the parts of the first line of a record.
* `Warning.ofLog`: the warnings of a log, in order.

## Main results

* `Warning.Start.ofLine?_eq_none_of_isContinuation`: no line both starts and continues a record.
-/

namespace DoxTriage

namespace Warning

/-- The parts of the first line of a record; the line number as it is written. -/
structure Start where
  file : Text
  digits : Text
  message : Text
  deriving DecidableEq, Repr

namespace Start

/-- How a record begins. -/
def mark : Text := "doxygen:".toList

/-- What stands between the line number and the message. -/
def sign : Text := ": warning: ".toList

/-- The line number and the message, from what follows the file name. -/
def readRest : Text → Option (Text × Text)
  | ':' :: s =>
    let digits := s.takeWhile isDigit
    match sign.isPrefixOf? (s.dropWhile isDigit) with
    | some message => if digits = [] ∨ message = [] then none else some (digits, message)
    | none => none
  | _ => none

/-- The parts of a line that starts a record. The file name is not empty. -/
def ofLine? (line : Text) : Option Start :=
  match mark.isPrefixOf? line with
  | some (c :: s) =>
    (Text.firstCut? readRest s).map fun cut => ⟨c :: cut.1, cut.2.1, cut.2.2⟩
  | _ => none

end Start

/-- A line that goes on with the record before it. -/
def isContinuation : Text → Bool
  | [] => true
  | c :: _ => isBlank c

theorem Start.ofLine?_eq_none_of_isContinuation {line : Text} (h : isContinuation line = true) :
    Start.ofLine? line = none := by
  cases line with
  | nil => rfl
  | cons c s =>
    have hc : ('d' == c) = false := by
      rw [beq_eq_false_iff_ne]
      rintro rfl
      have hd : isBlank 'd' = true := h
      exact absurd hd (by decide)
    have hmark : mark.isPrefixOf? (c :: s) = none := by
      have hfirst : mark.isPrefixOf? (c :: s) =
          if 'd' == c then "oxygen:".toList.isPrefixOf? s else none := rfl
      rw [hfirst, hc]
      rfl
    rw [ofLine?, hmark]

/-- The warning of the record that starts with a line; the lines after it are given. -/
def ofRecord? (line : Text) (later : List Text) : Option Warning := do
  let start ← Start.ofLine? line
  let number ← Text.lineNumber? start.digits
  let message := Text.join ['\n'] (start.message :: later.takeWhile isContinuation)
  return ⟨start.file, number, message⟩

/-- The warnings of the records that start in several lines. -/
def ofLines : List Text → List Warning
  | [] => []
  | line :: later => (ofRecord? line later).toList ++ ofLines later

/-- The warnings of a log, in order. -/
def ofLog (content : Text) : List Warning :=
  ofLines (Text.lines content)

end Warning

end DoxTriage
