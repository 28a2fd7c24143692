import DoxTriage.Text.Basic

/-!
# Parameter commands

The commands that document a parameter of a function or of a template, each with either of the
characters that can begin a command. They are named in the logs as they are written in the source.

## Main definitions

* `ParameterCommand.all`: the four commands.
* `ParameterCommand.read?`: the command that a text begins with.
-/

namespace DoxTriage

namespace ParameterCommand

/-- The commands that document a parameter. None of them begins with another one. -/
def all : List Text :=
  ["@param".toList, "@tparam".toList, "\\param".toList, "\\tparam".toList]

/-- The command that a text begins with, and what follows it. -/
def read? (s : Text) : Option (Text × Text) :=
  all.findSome? fun command => (command.isPrefixOf? s).map (command, ·)

theorem eq_of_read? {s command rest : Text} (h : read? s = some (command, rest)) :
    command ∈ all ∧ command.isPrefixOf? s = some rest := by
  obtain ⟨c, hc, e⟩ := List.exists_of_findSome?_eq_some h
  obtain ⟨r, hr, e⟩ := Option.map_eq_some_iff.1 e
  cases e
  exact ⟨hc, hr⟩

end ParameterCommand

end DoxTriage
