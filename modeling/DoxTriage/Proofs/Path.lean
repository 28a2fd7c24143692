import DoxTriage.Disk
import Mathlib.Data.List.Basic

/-!
# Paths taken from a directory

All places of a workspace are paths taken from its directory, and a directory can be named in many
ways: by nothing at all, with or without a slash at the end, from the root or not. What stands in
front of such a path is a text that depends on the directory alone, and it is empty or ends in a
slash (`Path.front`). That is all that matters about it. Two paths taken from one directory begin at
the same place and pass the same names, and then each goes on with names of its own.

## Main definitions

* `Path.names`: the names that a path passes.
* `Path.front`: what stands in front of a path that is taken from a directory.
* `Path.IsFileName`, `Path.NamesFile`: names of files, and paths that end in one.

## Main results

* `Path.join_eq`: a path taken from a directory.
* `Path.names_front`: its names are those of the directory and its own.
-/

namespace DoxTriage

namespace Path

/-- The names between the slashes of a path. -/
def names (p : Path) : List Text :=
  (Text.split '/' p.text).filter (· ≠ [])

/-- A text that can be the name of a file, in whatever directory. -/
structure IsFileName (name : Text) : Prop where
  ne_nil : name ≠ []
  ne_here : name ≠ ['.']
  ne_up : name ≠ ['.', '.']
  not_slash : '/' ∉ name
  not_zero : '\x00' ∉ name
  length_le : Text.utf8Length name ≤ 255

instance (name : Text) : Decidable (IsFileName name) :=
  decidable_of_iff
    (name ≠ [] ∧ name ≠ ['.'] ∧ name ≠ ['.', '.'] ∧ '/' ∉ name ∧ '\x00' ∉ name ∧
      Text.utf8Length name ≤ 255)
    ⟨fun ⟨h₁, h₂, h₃, h₄, h₅, h₆⟩ => ⟨h₁, h₂, h₃, h₄, h₅, h₆⟩,
      fun h => ⟨h.ne_nil, h.ne_here, h.ne_up, h.not_slash, h.not_zero, h.length_le⟩⟩

/-- The last step of a path is a name, and no slash is after it. -/
structure NamesFile (p : Path) (name : Text) : Prop where
  getLast?_names : p.names.getLast? = some name
  ne_here : name ≠ ['.']
  ne_up : name ≠ ['.', '.']
  not_slash : p.text.getLast? ≠ some '/'

/-- What stands in front of a path that is taken from a directory. -/
def front (p : Path) : Text :=
  if p.text = [] ∨ p.text.getLast? = some '/' then p.text else p.text ++ ['/']

theorem front_cases (p : Path) : p.front = [] ∨ ∃ s, p.front = s ++ ['/'] := by
  rw [front]
  split
  · next h =>
    rcases h with hnil | hslash
    · exact .inl hnil
    · exact .inr ⟨_, (List.dropLast_append_getLast? _ hslash).symm⟩
  · exact .inr ⟨_, rfl⟩

/-- A path taken from a directory, unless it is absolute. -/
theorem join_eq (p : Path) {q : Path} (h : q.isAbsolute = false) :
    p.join q = ⟨p.front ++ q.text⟩ := by
  rw [join, front, h]
  split
  · next hfalse => cases hfalse
  · split
    · rfl
    · rw [List.append_assoc]
      rfl

theorem front_of_getLast? {p : Path} {c : Char} (h : p.text.getLast? = some c) (hc : c ≠ '/') :
    p.front = p.text ++ ['/'] := by
  have hne : p.text ≠ [] := by
    intro hnil
    rw [hnil] at h
    cases h
  rw [front, if_neg]
  rintro (hnil | hslash)
  · exact hne hnil
  · exact hc (Option.some.inj (h.symm.trans hslash))

/-- A path taken from a directory passes the names of the directory and then its own. -/
theorem names_front (p : Path) (s : Text) :
    names ⟨p.front ++ s⟩ = names ⟨p.front⟩ ++ names ⟨s⟩ := by
  rcases p.front_cases with hfront | ⟨t, hfront⟩
  · rw [hfront]
    rfl
  · rw [names, names, names, hfront, List.append_assoc, List.singleton_append,
      Text.split_append_separator, Text.split_append_separator, List.filter_append,
      List.filter_append]
    simp

theorem isAbsolute_front (p : Path) {s : Text} (h : s.head? ≠ some '/') :
    isAbsolute ⟨p.front ++ s⟩ = isAbsolute ⟨p.front⟩ := by
  rw [isAbsolute, isAbsolute, List.head?_append]
  cases p.front with
  | nil => simp [h]
  | cons c front => rfl

theorem getLast?_front (p : Path) {s : Text} (h : s ≠ []) :
    (p.front ++ s).getLast? = s.getLast? :=
  List.getLast?_append_of_ne_nil _ h

theorem names_of_isFileName {name : Text} (h : IsFileName name) : names ⟨name⟩ = [name] := by
  rw [names, Text.split_of_not_mem h.not_slash]
  simp [h.ne_nil]

theorem head?_ne_of_isFileName {name : Text} (h : IsFileName name) : name.head? ≠ some '/' :=
  fun hhead => h.not_slash (List.mem_of_mem_head? hhead)

/-- The name of a file, taken from a directory, names a file. -/
theorem namesFile_front (p : Path) {name : Text} (h : IsFileName name) :
    NamesFile ⟨p.front ++ name⟩ name := by
  refine ⟨?_, h.ne_here, h.ne_up, ?_⟩
  · rw [names_front, names_of_isFileName h, List.getLast?_concat]
  · intro hlast
    rw [getLast?_front p h.ne_nil] at hlast
    exact h.not_slash (List.mem_of_getLast? hlast)

/-- The name of a file, joined to a directory, names a file. -/
theorem namesFile_join (p : Path) {name : Text} (h : IsFileName name) :
    NamesFile (p.join ⟨name⟩) name := by
  rw [join_eq p (decide_eq_false (head?_ne_of_isFileName h))]
  exact namesFile_front p h

end Path

end DoxTriage
