import DoxTriage.Text.Basic

/-!
# TOML values

A document is a table of values. A table can be written down in pieces that are far apart, and
which pieces may still come depends on how the table began: with a header of its own, because a
longer header passes through it, because a dotted key passes through it, or inline, where it is
complete at once. So a table knows its origin, and adding to a document is a partial function.

Integers and decimals have any size here. A reader may be able to hold only some of them, which
`Value.readable` decides. There are also words that have to be integers by their look and are none;
the document does not fail because of them, but a reader cannot hold them either.

## Main definitions

* `Toml.Value`, `Toml.Table`: values, and tables with their origin.
* `Toml.Table.at?`: change the table that a path of keys leads to.
* `Toml.Table.enter?`: enter a value under a dotted key.
* `Toml.Value.readable`: every number in a value can be held.
-/

namespace DoxTriage

namespace Toml

/-- How a table began. -/
inductive Origin where
  | header
  | passed
  | dotted
  | inline
  deriving DecidableEq, Repr

/-- Real numbers as they are written: `± digits · 10 ^ exponent`, or one of the two words. -/
inductive Real where
  | decimal (negative : Bool) (digits : Nat) (exponent : Int)
  | infinite (negative : Bool)
  | undefined
  deriving DecidableEq, Repr

/-- Values. The tables of an array of tables are listed from the last to the first. Nothing here
asks for a date or a time, so they are only known to be one. A misspelt integer is a word that looks
like an integer and is none. -/
inductive Value where
  | text (text : Text)
  | integer (number : Int)
  | misspelt
  | real (number : Real)
  | boolean (value : Bool)
  | moment
  | array (items : List Value)
  | table (origin : Origin) (entries : List (Text × Value))
  | tables (reversed : List (List (Text × Value)))
  deriving Repr

/-- A table: how it began, and its entries. -/
structure Table where
  origin : Origin
  entries : List (Text × Value)

namespace Table

/-- A table without entries. -/
def empty (origin : Origin) : Table := ⟨origin, []⟩

/-- The value under a key. -/
def find? (table : Table) (key : Text) : Option Value :=
  table.entries.lookup key

/-- Put a value under a key, in the place of the one that is there. -/
def put (table : Table) (key : Text) (value : Value) : Table :=
  { table with entries := (key, value) :: table.entries.filter (·.1 ≠ key) }

/-- A table as a value. -/
def toValue (table : Table) : Value :=
  .table table.origin table.entries

/-- Change the table that a path leads to. Tables that are missing on the way are made. A path that
leads to an array of tables goes on in the last of them. A path that belongs to a dotted key does
not pass through other tables that have a header, and no path passes through inline tables. -/
def at? (dotted : Bool) (change : Table → Option Table) : List Text → Table → Option Table
  | [], table => change table
  | key :: path, table =>
    match table.find? key with
    | none =>
      (at? dotted change path (empty (if dotted then .dotted else .passed))).map
        fun child => table.put key child.toValue
    | some (.table origin entries) =>
      if origin = .inline ∨ dotted ∧ origin = .header then none
      else (at? dotted change path ⟨origin, entries⟩).map fun child => table.put key child.toValue
    | some (.tables (last :: earlier)) =>
      (at? dotted change path ⟨.header, last⟩).map
        fun child => table.put key (.tables (child.entries :: earlier))
    | some _ => none

/-- Enter a value under a dotted key, which is a path and a last key. A table that a dotted key
leads to has to have been begun by one. -/
def enter? (path : List Text) (key : Text) (value : Value) (table : Table) : Option Table :=
  table.at? true
    (fun parent =>
      if path ≠ [] ∧ parent.origin ≠ .dotted ∨ (parent.find? key).isSome then none
      else some (parent.put key value))
    path

/-- Begin a table with a header. A table that other headers have passed through goes on. -/
def openTable? (path : List Text) (key : Text) (table : Table) : Option Table :=
  table.at? false
    (fun parent =>
      match parent.find? key with
      | none => some (parent.put key (empty .header).toValue)
      | some (.table .passed entries) => some (parent.put key (.table .header entries))
      | some _ => none)
    path

/-- Begin one more table of an array of tables with a header. -/
def openNextTable? (path : List Text) (key : Text) (table : Table) : Option Table :=
  table.at? false
    (fun parent =>
      match parent.find? key with
      | none => some (parent.put key (.tables [[]]))
      | some (.tables reversed) => some (parent.put key (.tables ([] :: reversed)))
      | some _ => none)
    path

end Table

/-! ### Numbers that can be held -/

/-- Integers of 128 bits, signed or unsigned. -/
def holdsInteger (number : Int) : Bool :=
  -Nat.pow 2 127 ≤ number && number < Nat.pow 2 128

/-- The least number that is rounded to infinity when it is held in 64 bits. -/
def overflow : Nat := Nat.pow 2 1024 - Nat.pow 2 970

/-- Decimals that do not overflow. The powers of ten that are computed are kept small. -/
def holdsReal : Real → Bool
  | .decimal _ 0 _ => true
  | .decimal _ digits (.ofNat up) => up ≤ 400 && digits * Nat.pow 10 up < overflow
  | .decimal _ digits (.negSucc down) =>
    (Nat.toDigits 10 digits).length ≤ down || digits < overflow * Nat.pow 10 (down + 1)
  | .infinite _ | .undefined => true

mutual

/-- Every number in the value can be held. -/
def Value.readable : Value → Bool
  | .text _ | .boolean _ | .moment => true
  | .integer number => holdsInteger number
  | .misspelt => false
  | .real number => holdsReal number
  | .array items => readableItems items
  | .table _ entries => readableEntries entries
  | .tables reversed => readableTables reversed

/-- Every number in several values can be held. -/
def readableItems : List Value → Bool
  | [] => true
  | item :: items => item.readable && readableItems items

/-- Every number in the entries of a table can be held. -/
def readableEntries : List (Text × Value) → Bool
  | [] => true
  | (_, value) :: entries => value.readable && readableEntries entries

/-- Every number in several tables can be held. -/
def readableTables : List (List (Text × Value)) → Bool
  | [] => true
  | entries :: tables => readableEntries entries && readableTables tables

end

end Toml

end DoxTriage
