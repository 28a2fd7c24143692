import DoxTriage.Text.Blank

/-!
# Names in a parameter list

A parameter list is kept as it is written, and types of parameters can be anything. What declares a
name can still be told from a few characters: a parameter's name is not the end of a longer word,
and what follows it is the comma before the next parameter or the parenthesis that ends the list.

The name is searched from the left, each search beginning where the one before has ended. For names
that are words this finds all occurrences; of a name that can overlap itself it may miss some.

## Main definitions

* `ParameterList.occurrences`: where a text is found, from the left.
* `ParameterList.declares`: the list declares a name.
-/

namespace DoxTriage

namespace ParameterList

/-- Where a text occurs: the character in front of it, if there is one, and what follows it. -/
structure Occurrence where
  previous : Option Char
  rest : Text
  deriving DecidableEq, Repr

/-- The occurrences of a name in a text. `previous` stands in front of the text, and its first
`pass` characters belong to an occurrence found before. -/
def occurrencesFrom (name : Text) (pass : Nat) (previous : Option Char) :
    Text → List Occurrence
  | [] => []
  | c :: s =>
    if pass = 0 then
      match name.isPrefixOf? (c :: s) with
      | some rest => ⟨previous, rest⟩ :: occurrencesFrom name (name.length - 1) (some c) s
      | none => occurrencesFrom name 0 (some c) s
    else occurrencesFrom name (pass - 1) (some c) s

/-- The occurrences of a name in a text, from the left and without overlap. -/
def occurrences (name s : Text) : List Occurrence :=
  occurrencesFrom name 0 none s

/-- Characters of words. -/
def isWordPart (c : Char) : Bool :=
  c.isAlphanum || c = '_'

/-- A parameter's name is not the end of a longer word, and a comma or the end of the list comes
next. -/
def Occurrence.declares (occurrence : Occurrence) : Bool :=
  occurrence.previous.any (! isWordPart ·) &&
    ((Text.trimStart occurrence.rest).head? = some ',' || Text.trimStart occurrence.rest = [')'])

/-- The list declares a name. Blanks after the list do not count. -/
def declares (list name : Text) : Bool :=
  name ≠ [] && (occurrences name (Text.trimEnd list)).any Occurrence.declares

end ParameterList

end DoxTriage
