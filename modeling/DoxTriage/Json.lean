import DoxTriage.Declaration
import DoxTriage.Rule
import DoxTriage.Summary

/-!
# JSON

Other programs get their answers as JSON on one line, without blanks. Only characters that may not
stand in a JSON text as they are get escaped: the quote, the backslash and the controls below the
space.

## Main definitions

* `Json`: the values that are written, numbers being natural.
* `Json.render`: a value on one line.
* `Record.toJson` and so on: what the values of the library are written as.
-/

namespace DoxTriage

/-- The values that are written. The fields of an object are in order. -/
inductive Json where
  | text (text : Text)
  | number (number : Nat)
  | array (items : List Json)
  | object (fields : List (Text × Json))
  deriving Repr

namespace Json

/-- The two hexadecimal digits of a small number, in lower case. -/
def twoDigits (n : Nat) : Text :=
  [Nat.digitChar (n / 16), Nat.digitChar (n % 16)]

/-- A character as it stands in a JSON text. -/
def escapeChar (c : Char) : Text :=
  if c = '"' then ['\\', '"']
  else if c = '\\' then ['\\', '\\']
  else if c = '\x08' then ['\\', 'b']
  else if c = '\t' then ['\\', 't']
  else if c = '\n' then ['\\', 'n']
  else if c = '\x0C' then ['\\', 'f']
  else if c = '\r' then ['\\', 'r']
  else if c < ' ' then ['\\', 'u', '0', '0'] ++ twoDigits c.toNat
  else [c]

/-- A text between quotes. -/
def quote (s : Text) : Text :=
  '"' :: s.flatMap escapeChar ++ ['"']

mutual

/-- A value on one line. -/
def render : Json → Text
  | .text s => quote s
  | .number n => Text.decimal n
  | .array items => '[' :: Text.join [','] (renderItems items) ++ [']']
  | .object fields => '\x7b' :: Text.join [','] (renderFields fields) ++ ['\x7d']

/-- The items of an array, each on one line. -/
def renderItems : List Json → List Text
  | [] => []
  | item :: items => item.render :: renderItems items

/-- The fields of an object, each on one line. -/
def renderFields : List (Text × Json) → List Text
  | [] => []
  | (key, value) :: fields => (quote key ++ ':' :: value.render) :: renderFields fields

end

/-- An object with fields that are named here. -/
def ofFields (fields : List (String × Json)) : Json :=
  .object (fields.map fun field => (field.1.toList, field.2))

/-- An error message as it is written. -/
def ofMessage (message : Text) : Json :=
  ofFields [("error", .text message)]

end Json

/-- A record as it is written. -/
def Record.toJson (record : Record) : Json :=
  .ofFields
    [("file_path", .text record.file), ("line", .number record.line),
     ("headline", .text record.headline),
     ("context_lines", .array (record.contexts.map .text))]

/-- A declaration as it is written. -/
def Declaration.toJson (declaration : Declaration) : Json :=
  .ofFields [("l", .number declaration.line), ("a", .text declaration.parameters)]

/-- A rule as it is written. -/
def Rule.toJson (rule : Rule) : Json :=
  .ofFields [("id", .text rule.identifier), ("description", .text rule.description)]

/-- The fields of a summary as they are written. -/
def Summary.toFields (summary : Summary) : List (String × Json) :=
  [("kept", .number summary.kept), ("total", .number summary.total),
   ("unique", .number summary.unique), ("ignored", .number summary.ignored)]

end DoxTriage
