import DoxTriage.Text.Casing

/-!
# Lower case

The lower-case form of a text is taken character by character, with two exceptions that the
Unicode standard makes for every language: the dotted capital I becomes a small i with a dot above
it, and a capital sigma becomes a *final* sigma where it ends a word. A sigma ends a word if, marks
and apostrophes passed over, the character before it has case and the one after it has not.

## Main definitions

* `Text.lowerCase`: the lower-case form of a text.
-/

namespace DoxTriage

namespace Text

/-- Whether the next character that is not passed over has case. -/
def caseComesNext (s : Text) : Bool :=
  match s.dropWhile isCaseIgnorable with
  | c :: _ => isCased c
  | [] => false

/-- The lower-case form of what follows `before`, which is given backwards. -/
def lowerCaseAfter (before : Text) : Text → Text
  | [] => []
  | c :: s =>
    let letters : Text :=
      if c = 'Σ' then
        if caseComesNext before && ! caseComesNext s then ['ς'] else ['σ']
      else if c = 'İ' then ['i', '\u0307']
      else [lowerCaseOf c]
    letters ++ lowerCaseAfter (c :: before) s

/-- The lower-case form of a text. -/
def lowerCase (s : Text) : Text :=
  lowerCaseAfter [] s

end Text

end DoxTriage
