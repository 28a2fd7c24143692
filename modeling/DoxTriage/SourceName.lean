import DoxTriage.Text.Basic

/-!
# Names of source files

The same source file is named differently by every machine that a project is checked out on. What
the names have in common begins at a directory of the project, which a marker such as `src/` stands
for. The name of a source file is what its path shows from the *last* marker on, so that a checkout
below a directory that also contains the marker makes no difference; overlapping occurrences count.
A path without the marker, and every path if there is no marker, is its own name.

## Main definitions

* `sourceName`: the name of a source file, from a path to it.
-/

namespace DoxTriage

/-- The name of the source file at a path: what follows from the last occurrence of the marker on,
the marker included. -/
def sourceName (marker path : Text) : Text :=
  if marker = [] then path
  else
    match Text.lastCut? (fun rest => if marker.isPrefixOf rest then some rest else none) path with
    | some (_, name) => name
    | none => path

end DoxTriage
