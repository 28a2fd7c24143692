import DoxTriage.Toml.Moment
import DoxTriage.Toml.Quotation

/-!
# TOML documents

A document is a sequence of statements, one per line: a header begins a table, and an entry puts a
value under a key of the table that was begun last. Reading the statements and carrying them out are
two steps, since a statement that can be read may still contradict what came before.

Collections may be nested in each other, but not without bound.

## Main definitions

* `Toml.readValue`: a value.
* `Toml.Statement`, `Toml.readStatement`: one line of a document.
* `Toml.Progress.after?`: a document with one more statement carried out.
* `Toml.document?`: the table that a document is.
-/

namespace DoxTriage

namespace Toml

/-! ### Keys -/

/-- Characters of keys without quotes. -/
def isBare (c : Char) : Bool :=
  c.isAlphanum || c = '_' || c = '-'

/-- Read a part of a key, with or without quotes. -/
def readKeyPart (s : Text) : Option (Text × Text) :=
  match s.takeWhile isBare with
  | [] => readLine s
  | bare => some (bare, s.dropWhile isBare)

/-- A dotted key: a path and a last part. -/
structure DottedKey where
  path : List Text
  last : Text
  deriving DecidableEq, Repr

/-- The greatest number of parts of a dotted key. -/
def keyLimit : Nat := 80

/-- Read a dotted key. -/
def readKey : Reader DottedKey := fun s => do
  let (first, rest) ← readKeyPart s
  let more := readWhile
    (fun s => do
      let s ← skip? "." (skipBlanks s)
      readKeyPart (skipBlanks s))
    rest
  if keyLimit ≤ more.1.length then failure
  return (⟨(first :: more.1).dropLast, (first :: more.1).getLast (List.cons_ne_nil _ _)⟩, more.2)

/-! ### Values -/

/-- Characters of words: all but blanks, ends of lines, and the marks that structure a document. -/
def isWordChar (c : Char) : Bool :=
  ! " \t\r\n=,[]\x7b\x7d#".toList.contains c

/-- A word off the front of a text. After a date, a blank and a digit belong to the word: they begin
a time. -/
def cutWord (s : Text) : Text × Text :=
  let word := s.takeWhile isWordChar
  let rest := s.dropWhile isWordChar
  match rest with
  | ' ' :: c :: more =>
    if isDate word && c.isDigit then
      (word ++ ' ' :: (c :: more).takeWhile isWordChar, (c :: more).dropWhile isWordChar)
    else (word, rest)
  | _ => (word, rest)

/-- The value that a word is. -/
def wordValue? (word : Text) : Option Value :=
  if word = "true".toList then some (.boolean true)
  else if word = "false".toList then some (.boolean false)
  else if isMoment word then some .moment
  else
    (integer? word).map .integer <|> (real? word).map .real <|>
      if looksInteger word then some .misspelt else none

/-- Read the value that a word is. -/
def readWord : Reader Value := fun s =>
  let (word, rest) := cutWord s
  (wordValue? word).map (·, rest)

/-- Read the items of a collection up to its end, from behind its beginning. Commas stand between
the items, and one may stand after the last. -/
def readItems {α : Type} (readItem : Reader α) (ending : String) : Reader (List α) := fun s =>
  match readItem (skipGap s) with
  | none => (skip? ending (skipGap s)).map ([], ·)
  | some (first, rest) => do
    let more := readWhile
      (fun s => do
        let s ← skip? "," (skipGap s)
        readItem (skipGap s))
      rest
    let rest := skipGap more.2
    let rest ← skip? ending (((skip? "," rest).map skipGap).getD rest)
    return (first :: more.1, rest)

/-- Read a key, an equals sign and a value. What may stand around the equals sign is skipped. -/
def readEntry (skip : Text → Text) (readValue : Reader Value) : Reader (DottedKey × Value) :=
  fun s => do
  let (key, rest) ← readKey s
  let rest ← skip? "=" (skip rest)
  let (value, rest) ← readValue (skip rest)
  return ((key, value), rest)

/-- The inline table of several entries. -/
def inlineTable? (entries : List (DottedKey × Value)) : Option Table :=
  entries.foldlM (fun table entry => table.enter? entry.1.path entry.1.last entry.2)
    (Table.empty .inline)

/-- Read a value in which collections are nested up to a depth. -/
def readValueWithin : Nat → Reader Value
  | depth, '[' :: s =>
    match depth with
    | 0 => none
    | depth + 1 =>
      (readItems (readValueWithin depth) "]" s).map fun cut => (.array cut.1, cut.2)
  | depth, '\x7b' :: s =>
    match depth with
    | 0 => none
    | depth + 1 => do
      let (entries, rest) ← readItems (readEntry skipGap (readValueWithin depth)) "\x7d" s
      let table ← inlineTable? entries
      return (table.toValue, rest)
  | _, s => (readText s).map (fun cut => (.text cut.1, cut.2)) <|> readWord s

/-- How deeply collections may be nested. -/
def nestingLimit : Nat := 80

/-- Read a value. -/
def readValue : Reader Value :=
  readValueWithin nestingLimit

/-! ### Statements -/

/-- What a line of a document says. -/
inductive Statement where
  | nothing
  | header (key : DottedKey)
  | nextHeader (key : DottedKey)
  | entry (key : DottedKey) (value : Value)

/-- Read a key between the beginning and the end of a header. -/
def readHeader (beginning ending : String) : Reader DottedKey := fun s => do
  let s ← skip? beginning s
  let (key, rest) ← readKey (skipBlanks s)
  let rest ← skip? ending (skipBlanks rest)
  return (key, rest)

/-- Read what a line says, without the end of the line. -/
def readContent : Reader Statement := fun s =>
  if (skip? "[[" s).isSome then
    (readHeader "[[" "]]" s).map fun cut => (.nextHeader cut.1, cut.2)
  else if (skip? "[" s).isSome then
    (readHeader "[" "]" s).map fun cut => (.header cut.1, cut.2)
  else
    match readEntry skipBlanks readValue s with
    | some ((key, value), rest) => some (.entry key value, rest)
    | none => some (.nothing, s)

/-- Read one line. -/
def readStatement : Reader Statement := fun s =>
  if s = [] then none
  else do
    let (statement, rest) ← readContent (skipBlanks s)
    let rest ← readEndOfLine rest
    return (statement, rest)

/-! ### Documents -/

/-- A document as far as it has been carried out: its table and the path to the table begun last. -/
structure Progress where
  table : Table := Table.empty .header
  path : List Text := []

/-- The document with one more statement carried out. -/
def Progress.after? (progress : Progress) : Statement → Option Progress
  | .nothing => some progress
  | .header key =>
    (progress.table.openTable? key.path key.last).map fun table => ⟨table, key.path ++ [key.last]⟩
  | .nextHeader key =>
    (progress.table.openNextTable? key.path key.last).map
      fun table => ⟨table, key.path ++ [key.last]⟩
  | .entry key value =>
    (progress.table.at? false (·.enter? key.path key.last value) progress.path).map
      fun table => { progress with table := table }

/-- The table that a document is. A byte order mark in front is not part of it. -/
def document? (content : Text) : Option Table :=
  match readWhile readStatement (Text.dropByteOrderMark content) with
  | (statements, []) => (statements.foldlM Progress.after? {}).map Progress.table
  | _ => none

end Toml

end DoxTriage
