import DoxTriage.Text.Basic

/-!
# Paths

A path is kept as it is written, because it is shown in messages and reports as it is written.
What it *denotes* is its list of components: repeated slashes, a slash at the end and the component
`.` say nothing, except that a relative path may say at its very front that it starts here. Two
paths that list the same document are recognised by their components, not by their spelling. The
component `..` is kept, since where it leads depends on the file system.

## Main definitions

* `Path`: a path as written.
* `Path.join`: a path taken from a directory.
* `Path.components`, `Path.same`: what a path denotes, and equality of that.
* `Path.extension?`: what follows the last full stop of a file name.

## Main results

* `Path.same_iff`: the test for sameness compares components.
-/

namespace DoxTriage

/-- A path as it is written. -/
structure Path where
  text : Text
  deriving DecidableEq, Repr

namespace Path

/-- The part of a path between two slashes, by what it says. -/
inductive Component where
  | root
  | here
  | up
  | name (name : Text)
  deriving DecidableEq, Repr

/-- A path that starts at the root. -/
def isAbsolute (p : Path) : Bool :=
  p.text.head? = some '/'

/-- The path `q` taken from the directory `p`. An absolute path does not depend on where it is
taken from, and one slash is put between unless there is one or nothing in front. -/
def join (p q : Path) : Path :=
  if q.isAbsolute then q
  else if p.text = [] ∨ p.text.getLast? = some '/' then ⟨p.text ++ q.text⟩
  else ⟨p.text ++ '/' :: q.text⟩

/-- What a part between two slashes says, if it says anything. -/
def Component.ofPart? (part : Text) : Option Component :=
  if part = [] ∨ part = ['.'] then none
  else if part = ['.', '.'] then some .up
  else some (.name part)

/-- What the path denotes. -/
def components (p : Path) : List Component :=
  let parts := Text.split '/' p.text
  let front : List Component :=
    if p.isAbsolute then [.root] else if parts.head? = some ['.'] then [.here] else []
  front ++ parts.filterMap Component.ofPart?

/-- Two spellings of one path. -/
def same (p q : Path) : Bool :=
  p.components = q.components

theorem same_iff {p q : Path} : p.same q = true ↔ p.components = q.components := by
  simp [same]

/-- A full stop at the front of a text, and what follows it. -/
def readStop (s : Text) : Option Text :=
  if s.head? = some '.' then some s.tail else none

/-- What follows the last full stop of the file name. A name that has its only full stop in front
has no extension, and neither has a path that does not end in a name. -/
def extension? (p : Path) : Option Text :=
  match p.components.getLast? with
  | some (.name name) =>
    match Text.lastCut? readStop name with
    | some (front, extension) => if front = [] then none else some extension
    | none => none
  | _ => none

end Path

end DoxTriage
