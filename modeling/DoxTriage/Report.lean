import DoxTriage.Summary
import DoxTriage.Text.Digit

/-!
# The report

The report lists what is left by source file, with one line per record. A headline often shows the
whole parameter list of a function, which makes reports of two versions hard to compare. So in each
line of a headline everything from the first opening parenthesis to the last closing one is left
out. Records whose headlines only differ there stay two lines.

A report on nothing is empty, and not even a heading is written.

## Main definitions

* `Report.collapse`: a headline without what is in parentheses.
* `Report.sections`: records by source file.
* `Report.render`: the text of a report.
-/

namespace DoxTriage

namespace Report

/-! ### Headlines -/

/-- One line, with everything from the first opening to the last closing parenthesis collapsed. -/
def collapseLine (line : Text) : Text :=
  let inside := (line.dropWhile (· ≠ '(')).tail
  if ')' ∈ inside then
    line.takeWhile (· ≠ '(') ++ ['(', ')'] ++ (inside.reverse.takeWhile (· ≠ ')')).reverse
  else line

/-- A headline with the parentheses in each of its lines collapsed. -/
def collapse (headline : Text) : Text :=
  Text.join ['\n'] ((Text.pieces headline).map collapseLine)

/-! ### Sections -/

/-- Records by source file, in the order of reports. Records with equal keys stay in order. -/
def sections (records : List Record) : List (List Record) :=
  (records.mergeSort (notAfter Record.toKey)).splitBy fun a b => a.file = b.file

/-! ### Text -/

/-- The line that begins a report. -/
def heading (summary : Summary) : Text :=
  "The documentation generated ".toList ++ Text.decimal summary.kept ++
    " unique warnings (total: ".toList ++ Text.decimal summary.total ++
    ", ignored: ".toList ++ Text.decimal summary.ignored ++ "):\n".toList

/-- The contexts of a record, if there are any, with what stands in front of them. -/
def contextText (separator : Text) (contexts : List Text) : Text :=
  if contexts = [] then [] else ": ".toList ++ Text.join separator (contexts.map Text.trim)

/-- The line of a record. -/
def recordLine (separator : Text) (record : Record) : Text :=
  "  line ".toList ++ Text.decimal record.line ++ ": ".toList ++ collapse record.headline ++
    contextText separator record.contexts ++ ['\n']

/-- The lines of a source file. -/
def sectionText (separator : Text) (records : List Record) : Text :=
  match records with
  | [] => []
  | first :: _ => first.file ++ ":\n".toList ++ records.flatMap (recordLine separator)

/-- The text of a report on records. -/
def render (records : List Record) (summary : Summary) (separator : Text) : Text :=
  if records = [] then []
  else heading summary ++ (sections records).flatMap (sectionText separator)

end Report

end DoxTriage
