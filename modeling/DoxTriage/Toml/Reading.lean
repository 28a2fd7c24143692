import DoxTriage.Text.Basic

/-!
# Reading TOML

A reader of some part of a document takes that part off the front of a text: it gives what it has
read together with the rest, or nothing. Where parts follow one another without a fixed number,
`readWhile` applies one reader as long as it reads something.

Between the parts there are blanks, which are spaces and tabs; and between the items of a
collection also ends of lines and comments. A comment may hold tabs and what is no ASCII control.

## Main definitions

* `Toml.readWhile`: read parts as long as there are any.
* `Toml.skipBlanks`, `Toml.skipGap`: what may stand between two parts.
* `Toml.readEndOfLine`: the end of a line, with a comment before it.
-/

namespace DoxTriage

namespace Toml

/-- A reader takes something off the front of a text. -/
abbrev Reader (α : Type) := Text → Option (α × Text)

/-- Read one part after the other until there is none. A reader that takes nothing off is not asked
again. -/
def readWhile {α : Type} (reader : Reader α) (s : Text) : List α × Text :=
  match reader s with
  | none => ([], s)
  | some (a, rest) =>
    if rest.length < s.length then
      let later := readWhile reader rest
      (a :: later.1, later.2)
    else ([a], rest)
termination_by s.length

/-- Take a fixed text off the front. -/
def skip? (front : String) (s : Text) : Option Text :=
  front.toList.isPrefixOf? s

/-- Spaces and tabs. -/
def isBlankChar (c : Char) : Bool :=
  c = ' ' || c = '\t'

/-- Skip spaces and tabs. -/
def skipBlanks (s : Text) : Text :=
  s.dropWhile isBlankChar

/-- Characters that may stand in a comment or between quotes: all but the ASCII controls, and the
tab. -/
def isPlain (c : Char) : Bool :=
  c = '\t' || (' ' ≤ c && c ≠ '\x7F')

/-- Skip the end of a line. -/
def skipLineEnd? : Text → Option Text
  | '\n' :: s => some s
  | '\r' :: '\n' :: s => some s
  | _ => none

/-- Skip a comment, if there is one. -/
def skipComment : Text → Text
  | '#' :: s => s.dropWhile isPlain
  | s => s

/-- Read the end of a line or of the document, with blanks and a comment before it. -/
def readEndOfLine (s : Text) : Option Text :=
  match skipComment (skipBlanks s) with
  | [] => some []
  | rest => skipLineEnd? rest

/-- Skip what may stand between two items: blanks, comments and ends of lines. -/
def skipGap (s : Text) : Text :=
  let lines : List Unit × Text := readWhile
    (fun s => (skipLineEnd? (skipComment (skipBlanks s))).map fun rest => ((), rest)) s
  skipBlanks lines.2

end Toml

end DoxTriage
